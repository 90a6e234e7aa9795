import InventoryQuery.Http.Transport
import InventoryQuery.Proofs.Url.AbsolutePath
import InventoryQuery.Proofs.Url.Host

/-!
# URLs below a server

The URLs of the endpoints stay on the server of the configured address, whatever the version of the
interface is, as long as it starts with one slash. So no query and no user goes anywhere else. What
the address holds behind the server does not count.
-/

namespace InventoryQuery.Http

open Url (SameServer)

/-- The version of the interface is an absolute path: a slash, a character that is neither a slash
nor a tab or a line break, and any text. -/
def IsAbsolute (apiVersion : String) : Prop :=
  ∃ first rest, apiVersion.toList = '/' :: first :: rest ∧
    first ∉ ['/', '\\', '\t', '\n', '\r']

/-- The version and a path that starts with a slash make up a reference with one slash in front. -/
theorem IsAbsolute.exists_clean_eq {apiVersion path : String} (hversion : IsAbsolute apiVersion)
    (hpath : path.toList.head? = some '/') :
    ∃ first text, Url.clean (apiVersion ++ path).toList = '/' :: first :: text ∧
      Url.isAnySlash first = false := by
  obtain ⟨first, rest, hchars, hfirst⟩ := hversion
  obtain ⟨more, hmore⟩ := List.head?_eq_some_iff.mp hpath
  simp only [List.mem_cons, not_or] at hfirst
  obtain ⟨hslash, hbackslash, hkept⟩ := hfirst
  obtain ⟨text, hclean⟩ := Url.exists_clean_eq_cons (by simpa using hkept) rest more
  refine ⟨first, text, ?_, by simp [Url.isAnySlash, hslash, hbackslash]⟩
  rw [String.toList_append, hchars, hmore]
  exact hclean

/-- Below an address of the web, every endpoint has a URL. It is on the server of the address, and
it is the same for all addresses of that server. -/
theorem Server.urlFor_staysOnServer {address : String} {base : Url}
    (hparse : Url.parse address = .ok base) (hscheme : base.scheme = "http" ∨ base.scheme = "https")
    {apiVersion path : String} (hversion : IsAbsolute apiVersion)
    (hpath : path.toList.head? = some '/') :
    ∃ url, Server.urlFor ⟨base, apiVersion⟩ path = .ok url ∧ SameServer url base ∧
      ∀ other : Url, SameServer other base → Server.urlFor ⟨other, apiVersion⟩ path = .ok url := by
  have hweb : base.kind = .web := by
    rcases hscheme with h | h <;> rw [Url.kind, h] <;> decide
  obtain ⟨authority, -, hauthority, -⟩ := Url.hasHost_of_parse hparse hweb
  obtain ⟨first, text, hclean, hslash⟩ := hversion.exists_clean_eq hpath
  have hurl (other : Url) (hsame : SameServer other base) :
      Server.urlFor ⟨other, apiVersion⟩ path = .ok (Url.withPath base ['/'] (first :: text)) := by
    have hfile : other.kind ≠ .file := by
      rw [Url.kind, hsame.scheme_eq, ← Url.kind, hweb]
      decide
    have hhost : other.authority.isSome = true := by
      rw [hsame.authority_eq, hauthority]
      rfl
    rw [Server.urlFor, Url.join_of_slash hfile hhost hclean hslash, hsame.withPath_eq]
  exact ⟨_, hurl base ⟨rfl, rfl⟩, Url.sameServer_withPath base _ _, hurl⟩

/-- An address with a user and with a path, a query and a fragment of its own. -/
def guardedAddress : Url where
  scheme := "https"
  authority :=
    some
      { username := "user", password := "pw", host := some (.ipv6 [0, 0, 0, 0, 0, 0, 0, 1]),
        port := some 8443 }
  path := "/old/path".toList
  query := some ['x']
  fragment := some ['y']

/-- A version with slashes of both kinds, an at sign, a colon, dots, a tab and marks does not lead
away from the guarded address, and neither does the path of the address lead elsewhere. -/
theorem urlFor_staysOnServer_evasiveVersion :
    let version := "/ \\\\evil:80//@/..//\t%2f?é#"
    Url.parse "https://user:pw@[::1]:8443/old/path?x#y" = .ok guardedAddress ∧
      IsAbsolute version ∧
      ∃ url, Server.urlFor ⟨guardedAddress, version⟩ "/nodes" = .ok url ∧
        SameServer url guardedAddress ∧
        Server.urlFor ⟨{ guardedAddress with path := ['/'], query := none, fragment := none },
          version⟩ "/nodes" = .ok url := by
  intro version
  have hparse : Url.parse "https://user:pw@[::1]:8443/old/path?x#y" = .ok guardedAddress := rfl
  have hversion : IsAbsolute version := ⟨' ', version.toList.drop 2, by decide, by decide⟩
  have hpath : "/nodes".toList.head? = some '/' := rfl
  obtain ⟨url, hurl, hsame, hothers⟩ :=
    Server.urlFor_staysOnServer hparse (.inr rfl) hversion hpath
  exact ⟨hparse, hversion, url, hurl, hsame, hothers _ ⟨rfl, rfl⟩⟩

end InventoryQuery.Http
