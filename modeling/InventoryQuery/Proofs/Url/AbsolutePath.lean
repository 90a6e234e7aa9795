import InventoryQuery.Url.Parser
import Mathlib.Data.List.Basic

/-!
# Absolute paths

A reference that starts with exactly one slash is a path, whatever follows the slash. Relative to a
URL with a host it replaces what stands behind the host, and nothing in it is taken for a scheme, a
user, a host or a port.
-/

namespace InventoryQuery.Url

/-- Two URLs agree on all that stands in front of the path: the scheme, the user name, the password,
the host and the port. -/
structure SameServer (url other : Url) : Prop where
  scheme_eq : url.scheme = other.scheme
  authority_eq : url.authority = other.authority

/-- Two characters at the start of a text, the first of them a slash, stay there when the text is
cleaned, provided that one more slash stands behind them and that the second one is no tab and no
line break. -/
theorem exists_clean_eq_cons {first : Char} (hfirst : first ∉ ['\t', '\n', '\r'])
    (rest more : List Char) :
    ∃ kept, clean ('/' :: first :: (rest ++ '/' :: more)) = '/' :: first :: kept := by
  have hslash : ¬ decide ('/'.toNat ≤ 0x20) = true := by decide
  have hfront (text : List Char) :
      ('/' :: text).dropWhile (fun c => decide (c.toNat ≤ 0x20)) = '/' :: text :=
    List.dropWhile_cons_of_neg hslash
  obtain ⟨back, hback⟩ : ∃ back,
      ('/' :: first :: (rest ++ '/' :: more)).reverse.dropWhile (fun c => decide (c.toNat ≤ 0x20)) =
        back ++ '/' :: ('/' :: first :: rest).reverse := by
    have hreverse : ('/' :: first :: (rest ++ '/' :: more)).reverse =
        more.reverse ++ '/' :: ('/' :: first :: rest).reverse := by simp
    rw [hreverse, List.dropWhile_append, hfront]
    split
    · exact ⟨[], rfl⟩
    · exact ⟨_, rfl⟩
  have hforward : (back ++ '/' :: ('/' :: first :: rest).reverse).reverse =
      '/' :: first :: (rest ++ '/' :: back.reverse) := by simp
  have hkept : (first != '\t' && first != '\n' && first != '\r') = true := by
    simpa [and_assoc] using hfirst
  rw [clean]
  simp only [hfront, hback, hforward]
  rw [List.filter_cons_of_pos (by decide), List.filter_cons, if_pos hkept]
  exact ⟨_, rfl⟩

/-- A text with one slash in front is read as a path. -/
theorem readRelative_of_slash (base : Url) {c : Char} (hc : isAnySlash c = false)
    (text : List Char) :
    readRelative base ('/' :: c :: text) = .ok (withPath base ['/'] (c :: text)) := by
  have hslash : isAnySlash '/' = true := rfl
  rw [readRelative, if_pos hslash]
  · simp only [hc, Bool.false_eq_true, if_false]
  · decide
  · decide

/-- Relative to a URL with a host that is not a file, a reference with one slash in front is read as
a path. -/
theorem join_of_slash {base : Url} (hkind : base.kind ≠ .file)
    (hhost : base.authority.isSome = true) {reference : String} {c : Char} {text : List Char}
    (hclean : clean reference.toList = '/' :: c :: text) (hc : isAnySlash c = false) :
    base.join reference = .ok (withPath base ['/'] (c :: text)) := by
  have hopaque : base.isOpaque = false := by
    rw [isOpaque, Option.isNone_eq_false_iff.mpr hhost, Bool.false_and]
  have hscheme : splitScheme? ('/' :: c :: text) = none := rfl
  unfold join read
  simp only [hclean, hscheme, hopaque, List.head?_cons, Option.some.injEq, Char.reduceEq, if_false,
    Bool.false_eq_true, if_neg hkind, readRelative_of_slash base hc]

/-- A path that is read relative to a URL leaves what stands in front of it. -/
theorem sameServer_withPath (base : Url) (path text : List Char) :
    SameServer (withPath base path text) base := ⟨rfl, rfl⟩

/-- A path is read alike relative to URLs of the same server. -/
theorem SameServer.withPath_eq {base other : Url} (h : SameServer base other)
    (path text : List Char) : withPath base path text = withPath other path text := by
  obtain ⟨scheme, authority, _, _, _⟩ := base
  obtain ⟨otherScheme, otherAuthority, _, _, _⟩ := other
  obtain ⟨rfl, rfl⟩ := h
  rfl

end InventoryQuery.Url
