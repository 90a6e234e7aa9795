import InventoryQuery.Proofs.Text.Form
import InventoryQuery.Proofs.Url.AbsolutePath

/-!
# Plain paths

A path of plain segments, of letters, digits, hyphens and underscores, needs no encoding and holds
no dots. Relative to a URL with a host it takes the place of the path, and what comes before the
path stays as it is.
-/

namespace InventoryQuery.Url

/-- The characters of a plain segment. -/
def isSegmentChar (c : Char) : Bool := c.isAlphanum || c == '-' || c == '_'

/-- A segment is plain: it has characters, and all of them are plain. -/
def IsPlainSegment (segment : String) : Prop :=
  segment ≠ "" ∧ ∀ c ∈ segment.toList, isSegmentChar c = true

/-- The path of some segments, with a slash in front of each. -/
def pathOf (segments : List String) : String := String.join (segments.map ("/" ++ ·))

/-- The path of some segments is that of the first one and that of the others. -/
theorem toList_pathOf_cons (segment : String) (segments : List String) :
    (pathOf (segment :: segments)).toList = '/' :: (segment.toList ++ (pathOf segments).toList) := by
  simp [pathOf]

/-- The path of some segments and one more. -/
theorem pathOf_append_singleton (segments : List String) (segment : String) :
    pathOf (segments ++ [segment]) = pathOf segments ++ ("/" ++ segment) := by
  simp [pathOf]

/-- The code points of plain characters. -/
theorem toNat_lt_of_isSegmentChar {c : Char} (hc : isSegmentChar c = true) : c.toNat < 123 := by
  simp only [isSegmentChar, Bool.or_eq_true, beq_iff_eq] at hc
  rcases hc with (hc | rfl) | rfl
  · exact Nat.lt_succ_of_le (Text.toNat_of_isAlphanum hc).2
  · decide
  · decide

/-- A plain character is no control, no separator, no dot and no percent sign, and stands for itself
in a path. -/
theorem isSegmentChar_table : ∀ n < 123, isSegmentChar (Char.ofNat n) = true →
    0x20 < n ∧ Char.ofNat n ∉ ['/', '\\', '?', '#', '.', '%'] ∧
      encodedInPath (Char.ofNat n) = false := by
  decide

/-- The table applies to every plain character. -/
theorem props_of_isSegmentChar {c : Char} (hc : isSegmentChar c = true) :
    0x20 < c.toNat ∧ (∀ separator ∈ ['/', '\\', '?', '#', '.', '%'], c ≠ separator) ∧
      encodedInPath c = false := by
  have htable := isSegmentChar_table c.toNat (toNat_lt_of_isSegmentChar hc)
  rw [Char.ofNat_toNat] at htable
  obtain ⟨hlow, hseparator, hencoded⟩ := htable hc
  exact ⟨hlow, fun separator hmem hsame => hseparator (hsame ▸ hmem), hencoded⟩

/-- A slash or a plain character occurs in a plain path. -/
theorem eq_slash_or_isSegmentChar {segments : List String}
    (hplain : ∀ segment ∈ segments, IsPlainSegment segment) {c : Char}
    (hc : c ∈ (pathOf segments).toList) : c = '/' ∨ isSegmentChar c = true := by
  induction segments with
  | nil => simp [pathOf] at hc
  | cons segment segments ih =>
    rw [toList_pathOf_cons, List.mem_cons, List.mem_append] at hc
    rcases hc with rfl | hc | hc
    · exact .inl rfl
    · exact .inr ((hplain segment (.head _)).2 c hc)
    · exact ih (fun s hs => hplain s (.tail _ hs)) hc

/-- No percent-encoded dot hides in a plain segment. -/
theorem decodeDots_of_plain {segment : List Char}
    (hplain : ∀ c ∈ segment, isSegmentChar c = true) : decodeDots segment = segment := by
  induction segment with
  | nil => rfl
  | cons c segment ih =>
    have hc : c ≠ '%' := (props_of_isSegmentChar (hplain c (.head _))).2.1 '%' (by decide)
    rw [decodeDots, ih (fun d hd => hplain d (.tail _ hd))]
    · rintro rest rfl
      exact absurd rfl hc
    · rintro rest rfl
      exact absurd rfl hc

/-- A plain segment is not made of dots. -/
theorem isDots_of_plain {segment : List Char} (hplain : ∀ c ∈ segment, isSegmentChar c = true) :
    isSingleDot segment = false ∧ isDoubleDot segment = false := by
  have hdot : '.' ∉ segment := fun h =>
    (props_of_isSegmentChar (hplain '.' h)).2.1 '.' (by decide) rfl
  rw [isSingleDot, isDoubleDot, decodeDots_of_plain hplain]
  constructor
  · exact beq_eq_false_iff_ne.mpr fun h => hdot (h ▸ .head _)
  · exact beq_eq_false_iff_ne.mpr fun h => hdot (h ▸ .head _)

/-- A plain segment is added to a path as it is. -/
theorem addSegment_of_plain {kind : Kind} (hkind : kind ≠ .file) {segment : List Char}
    (hplain : ∀ c ∈ segment, isSegmentChar c = true) (path : List Char) (slash : Bool) :
    addSegment kind path segment slash = path ++ segment ++ (if slash then ['/'] else []) := by
  obtain ⟨hsingle, hdouble⟩ := isDots_of_plain hplain
  have hfile : decide (kind = .file) = false := decide_eq_false hkind
  rw [addSegment]
  simp only [hsingle, hdouble, hfile, Bool.false_and, Bool.false_eq_true, if_false]
  congr 2
  split <;> rfl

/-- Plain segments are read as they are, after a path and a plain segment read so far. -/
theorem readSegments_of_plain {kind : Kind} (hkind : kind ≠ .file) {text : List Char}
    (htext : ∀ c ∈ text, c = '/' ∨ isSegmentChar c = true) (path segment : List Char)
    (hsegment : ∀ c ∈ segment, isSegmentChar c = true) :
    readSegments kind path segment text = (path ++ segment ++ text, []) := by
  induction text generalizing path segment with
  | nil => simp [readSegments, addSegment_of_plain hkind hsegment]
  | cons c text ih =>
    have hrest : ∀ d ∈ text, d = '/' ∨ isSegmentChar d = true := fun d hd => htext d (.tail _ hd)
    rw [readSegments]
    rcases htext c (.head _) with rfl | hc
    · have hslash : kind.isSlash '/' = true := rfl
      rw [if_pos hslash, addSegment_of_plain hkind hsegment, ih hrest _ [] (by simp)]
      simp
    · obtain ⟨-, hseparator, hencoded⟩ := props_of_isSegmentChar hc
      have hslash : kind.isSlash c = false := by
        simp [Kind.isSlash, hseparator '/' (by decide), hseparator '\\' (by decide)]
      have hend : ¬ (c = '?' || c = '#') = true := by
        simp [hseparator '?' (by decide), hseparator '#' (by decide)]
      have hself : Text.percentEncode encodedInPath [c] = [c] := by
        simp [Text.percentEncode, hencoded]
      rw [if_neg (by simp [hslash]), if_neg hend, hself, ih hrest path (segment ++ [c])]
      · simp
      · intro d hd
        rcases List.mem_append.mp hd with hd | hd
        · exact hsegment d hd
        · rwa [List.mem_singleton.mp hd]

/-- A text without blanks and controls is read as it is. -/
theorem clean_of_forall {text : List Char} (htext : ∀ c ∈ text, 0x20 < c.toNat) :
    clean text = text := by
  have hfront (chars : List Char) (hchars : ∀ c ∈ chars, 0x20 < c.toNat) :
      chars.dropWhile (fun c => decide (c.toNat ≤ 0x20)) = chars := by
    cases chars with
    | nil => rfl
    | cons c chars =>
      exact List.dropWhile_cons_of_neg (by simpa using hchars c (.head _))
  rw [clean]
  simp only [hfront text htext, hfront text.reverse (fun c hc => htext c (List.mem_reverse.mp hc)),
    List.reverse_reverse]
  refine List.filter_eq_self.mpr fun c hc => ?_
  have hbound := htext c hc
  have hne (control : Char) (hcontrol : control.toNat ≤ 0x20) : c ≠ control := by
    rintro rfl
    exact absurd hbound (Nat.not_lt.mpr hcontrol)
  simp [hne '\t' (by decide), hne '\n' (by decide), hne '\r' (by decide)]

/-- A plain path is read as it is. -/
theorem clean_pathOf {segments : List String}
    (hplain : ∀ segment ∈ segments, IsPlainSegment segment) :
    clean (pathOf segments).toList = (pathOf segments).toList := by
  refine clean_of_forall fun c hc => ?_
  rcases eq_slash_or_isSegmentChar hplain hc with rfl | hc
  · decide
  · exact (props_of_isSegmentChar hc).1

/-- A plain path with segments starts with one slash, not with two. -/
theorem exists_pathOf_eq_cons {segments : List String} (hsome : segments ≠ [])
    (hplain : ∀ segment ∈ segments, IsPlainSegment segment) :
    ∃ c rest, (pathOf segments).toList = '/' :: c :: rest ∧ isAnySlash c = false := by
  obtain ⟨first, others, rfl⟩ := List.exists_cons_of_ne_nil hsome
  obtain ⟨hfirst, hchars⟩ := hplain first (.head _)
  obtain ⟨c, more, hc⟩ : ∃ c more, first.toList = c :: more :=
    List.exists_cons_of_ne_nil (fun h => hfirst (String.toList_eq_nil_iff.mp h))
  refine ⟨c, more ++ (pathOf others).toList, ?_, ?_⟩
  · rw [toList_pathOf_cons, hc, List.cons_append]
  · have hseparator := (props_of_isSegmentChar (hchars c (hc ▸ .head _))).2.1
    simp [isAnySlash, hseparator '/' (by decide), hseparator '\\' (by decide)]

/-- Relative to a URL with a host that is not a file, a plain path takes the place of the path. -/
theorem join_pathOf {base : Url} (hkind : base.kind ≠ .file) (hhost : base.authority.isSome = true)
    {segments : List String} (hsome : segments ≠ [])
    (hplain : ∀ segment ∈ segments, IsPlainSegment segment) :
    base.join (pathOf segments) =
      .ok { base with path := (pathOf segments).toList, query := none, fragment := none } := by
  have hclean := clean_pathOf hplain
  have hchars := fun c => eq_slash_or_isSegmentChar (c := c) hplain
  obtain ⟨d, rest, htext, hslash⟩ := exists_pathOf_eq_cons hsome hplain
  rw [htext] at hchars
  have hpath : readSegments base.kind ['/'] [] (d :: rest) = ('/' :: d :: rest, []) :=
    readSegments_of_plain hkind (fun c hc => hchars c (.tail _ hc)) ['/'] [] (by simp)
  rw [join_of_slash hkind hhost (hclean.trans htext) hslash, htext]
  simp only [withPath, readPath, hpath, if_neg hkind, withEnd, readEnd]

end InventoryQuery.Url
