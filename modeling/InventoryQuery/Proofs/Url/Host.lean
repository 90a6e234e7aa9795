import InventoryQuery.Proofs.Results
import InventoryQuery.Url.Parser

/-!
# Hosts of web addresses

A text that is read as a URL of the web on its own names a host. Only the reading of what follows
two slashes gives a URL with a scheme of the web, and there a missing host is refused.
-/

namespace InventoryQuery.Url

/-- A URL has a host. -/
def HasHost (url : Url) : Prop :=
  ∃ authority host, url.authority = some authority ∧ authority.host = some host

/-- For a special scheme a host and a port are read only where there is a host. -/
theorem exists_host_of_readHostAndPort {scheme : String} {text : List Char}
    {result : Option Host × Option Nat × List Char}
    (hspecial : (Kind.ofScheme scheme).isSpecial = true)
    (hread : readHostAndPort scheme text = .ok result) : ∃ host, result.1 = some host := by
  unfold readHostAndPort at hread
  simp only [hspecial, Bool.true_or, if_true] at hread
  split at hread
  · obtain ⟨_, hthrown, _⟩ := bind_eq_ok_iff.mp hread
    contradiction
  · obtain ⟨host, _, hrest⟩ := bind_eq_ok_iff.mp hread
    refine ⟨host, ?_⟩
    split at hrest
    · rw [← Except.ok.inj hrest]
    · obtain ⟨port, _, hport⟩ := bind_eq_ok_iff.mp hrest
      rw [← Except.ok.inj hport]

/-- What follows two slashes is read as a URL with its scheme, and with a host if the scheme is
special. -/
theorem hasHost_of_readAfterSlashes {scheme : String} {text : List Char} {url : Url}
    (hread : readAfterSlashes scheme text = .ok url) :
    url.scheme = scheme ∧ ((Kind.ofScheme scheme).isSpecial = true → url.HasHost) := by
  unfold readAfterSlashes at hread
  obtain ⟨⟨username, password, hostText⟩, _, hread⟩ := bind_eq_ok_iff.mp hread
  obtain ⟨⟨host, port, left⟩, hhost, hread⟩ := bind_eq_ok_iff.mp hread
  have hurl : ∃ path rest, url =
      ({ scheme, authority := some { username, password, host, port }, path : Url }).withEnd rest := by
    dsimp only at hread
    split at hread
    · obtain ⟨_, hthrown, _⟩ := bind_eq_ok_iff.mp hread
      contradiction
    · exact ⟨_, _, (Except.ok.inj hread).symm⟩
  obtain ⟨path, rest, rfl⟩ := hurl
  refine ⟨rfl, ?_⟩
  intro hspecial
  obtain ⟨name, hname⟩ := exists_host_of_readHostAndPort hspecial hhost
  exact ⟨_, name, rfl, hname⟩

/-- What follows the scheme of a file is read as a URL of a file. -/
theorem scheme_of_readFile {text : List Char} {url : Url} (hread : readFile none text = .ok url) :
    url.scheme = "file" := by
  have hsingle {text : List Char} (hread : readFile.readFileSingle none text = .ok url) :
      url.scheme = "file" := by
    unfold readFile.readFileSingle at hread
    split at hread
    · contradiction
    · cases hread; rfl
    · split at hread <;> cases hread <;> rfl
  unfold readFile at hread
  split at hread
  · split at hread
    · dsimp only at hread
      split at hread
      · cases hread; rfl
      · split at hread
        · cases hread
        · split at hread <;> cases hread <;> rfl
    · exact hsingle hread
  · exact hsingle hread

/-- What follows a scheme that is not special is read as a URL with that scheme. -/
theorem scheme_of_readOther {scheme : String} {text : List Char} {url : Url}
    (hread : readOther scheme text = .ok url) : url.scheme = scheme := by
  unfold readOther at hread
  split at hread
  · exact (hasHost_of_readAfterSlashes hread).1
  · cases hread; rfl
  · cases hread; rfl

/-- A text that is read as a URL of the web on its own names a host. -/
theorem hasHost_of_parse {text : String} {url : Url} (hparse : parse text = .ok url)
    (hweb : url.kind = .web) : url.HasHost := by
  unfold parse read at hparse
  dsimp only at hparse
  split at hparse
  · next scheme rest _ =>
    unfold readWithScheme at hparse
    split at hparse
    · have hscheme := scheme_of_readFile hparse
      rw [kind, hscheme] at hweb
      exact absurd hweb (by decide)
    · next hkind =>
      rw [kind, scheme_of_readOther hparse, hkind] at hweb
      exact absurd hweb (by decide)
    · next hkind =>
      have hspecial : (Kind.ofScheme scheme).isSpecial = true := by rw [hkind]; rfl
      exact (hasHost_of_readAfterSlashes hparse).2 hspecial
  · cases hparse
  · next hbase => cases hbase

end InventoryQuery.Url
