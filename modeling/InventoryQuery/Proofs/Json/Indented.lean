import InventoryQuery.Proofs.Json.Decoded
import InventoryQuery.Proofs.Json.Integers
import InventoryQuery.Proofs.Json.Occurrence

/-!
# Reading back indented texts

The indented text of a value that may have been read is read back as the value, in front of any text
that does not go on with a number, as soon as the levels are left that the value needs. The space of
the lines is skipped wherever it is written: behind an opening bracket, behind a comma, in front of a
closing bracket and between a name and its value.
-/

namespace InventoryQuery.Json

/-- When all numbers that occur in a value are what integers are read as. -/
def HasWholeNumbers (v : Json) : Prop := ∀ number, Occurs (.number number) v → number.IsWhole

/-- The numbers of an array are those of its items. -/
theorem hasWholeNumbers_array_iff {items : List Json} :
    (array items).HasWholeNumbers ↔ ∀ item ∈ items, item.HasWholeNumbers := by
  constructor
  · exact fun h item hmem number hnumber => h number (.item hmem hnumber)
  · intro h number hnumber
    cases hnumber with
    | item hmem hitem => exact h _ hmem number hitem

/-- The numbers of an object are those of the values of its members. -/
theorem hasWholeNumbers_object_iff {members : List (String × Json)} :
    (object members).HasWholeNumbers ↔ ∀ member ∈ members, member.2.HasWholeNumbers := by
  constructor
  · exact fun h member hmem number hnumber => h number (.member hmem hnumber)
  · intro h number hnumber
    cases hnumber with
    | member hmem hvalue => exact h _ hmem number hvalue

/-- The only number of a number is itself. -/
theorem hasWholeNumbers_number_iff {number : Number} :
    (Json.number number).HasWholeNumbers ↔ number.IsWhole := by
  constructor
  · exact fun h => h number .self
  · rintro h _ ⟨⟩
    exact h

/-- There is no number in a string. -/
theorem hasWholeNumbers_string (s : String) : (string s).HasWholeNumbers := nofun

/-- When the indented text of a value is read back where a number of levels is left: it starts with
a character that is neither a space nor a closing bracket, and it is read as the value in front of
every text that may stand behind a number. -/
structure IsReadBack (depth : Nat) (v : Json) : Prop where
  start : ∀ level, ∃ c text, v.printIndented level = c :: text ∧ isSpace c = false ∧ c ≠ ']'
  read : ∀ {level fuel rest}, 2 * (v.printIndented level).length ≤ fuel → endsNumber rest = true →
    readValue fuel depth (v.printIndented level ++ rest) = .ok (v, rest)

/-- A space in front is skipped. -/
theorem skipSpace_space (text : List Char) : skipSpace (' ' :: text) = skipSpace text := rfl

/-- A new line is skipped with its indentation. -/
theorem skipSpace_indent (level : Nat) (text : List Char) :
    skipSpace (indent level ++ text) = skipSpace text := by
  have hspaces : ∀ c ∈ indent level, isSpace c = true := by
    simp [indent, isSpace]
  rw [skipSpace, skipSpace, List.dropWhile_append_of_pos hspaces]

/-- A value is read behind a space. -/
theorem readValue_space (fuel depth : Nat) (text : List Char) :
    readValue (fuel + 1) depth (' ' :: text) = readValue (fuel + 1) depth text := by
  rw [readValue, readValue, skipSpace_space]

/-- A text that may stand behind a number may be a new line. -/
theorem endsNumber_indent (level : Nat) (text : List Char) :
    endsNumber (indent level ++ text) = true := rfl

section

variable {depth level fuel : Nat} {rest behind : List Char}

/-- A value on a line of its own starts behind the indentation. -/
theorem IsReadBack.skipSpace_line {v : Json} (h : IsReadBack depth v) (behind : List Char) :
    skipSpace (indent level ++ v.printIndented level ++ behind) =
      v.printIndented level ++ behind := by
  obtain ⟨c, text, htext, hspace, -⟩ := h.start level
  rw [List.append_assoc, skipSpace_indent, htext, List.cons_append, skipSpace_cons hspace]

/-- Two items or more are written as the line of the first one, a comma and the others. -/
theorem printItemsIndented_cons_cons (level : Nat) (item second : Json) (more : List Json) :
    printItemsIndented level (item :: second :: more) =
      indent level ++ item.printIndented level ++
        ',' :: printItemsIndented level (second :: more) := by
  simp [printItemsIndented]

/-- The lines of items start with the first item. -/
theorem IsReadBack.skipSpace_items {item : Json} (h : IsReadBack depth item) (level : Nat)
    (items : List Json) (behind : List Char) :
    ∃ c more, skipSpace (printItemsIndented level (item :: items) ++ behind) = c :: more ∧
      c ≠ ']' := by
  obtain ⟨c, text, htext, -, hclose⟩ := h.start level
  match items with
  | [] =>
    rw [printItemsIndented, h.skipSpace_line, htext]
    exact ⟨c, _, rfl, hclose⟩
  | second :: more =>
    rw [printItemsIndented_cons_cons, List.append_assoc, List.cons_append, h.skipSpace_line, htext]
    exact ⟨c, _, rfl, hclose⟩

/-- The lines of items in front of a closing bracket are read back when each item is. -/
theorem readItems_printItemsIndented {items : List Json} (hne : items ≠ [])
    (hitems : ∀ item ∈ items, IsReadBack depth item)
    (hfuel : 2 * (printItemsIndented level items).length ≤ fuel)
    (hend : endsNumber behind = true) (hclose : skipSpace behind = ']' :: rest) :
    readItems fuel depth (skipSpace (printItemsIndented level items ++ behind)) =
      .ok (items, rest) := by
  induction items generalizing fuel with
  | nil => exact absurd rfl hne
  | cons item items ih =>
    obtain ⟨hitem, hmore⟩ := List.forall_mem_cons.mp hitems
    cases items with
    | nil =>
      simp only [printItemsIndented, indent, List.length_append, List.length_cons] at hfuel
      obtain ⟨fuel, rfl⟩ := Nat.exists_eq_add_of_le' (show 1 ≤ fuel by omega)
      rw [printItemsIndented, hitem.skipSpace_line]
      exact readItems_last_of_skipSpace (hitem.read (by omega) hend) hclose
    | cons second more =>
      rw [printItemsIndented_cons_cons] at hfuel ⊢
      simp only [indent, List.length_append, List.length_cons] at hfuel
      obtain ⟨fuel, rfl⟩ := Nat.exists_eq_add_of_le' (show 1 ≤ fuel by omega)
      obtain ⟨hsecond, -⟩ := List.forall_mem_cons.mp hmore
      obtain ⟨c, text, htext, hopen⟩ := hsecond.skipSpace_items level more behind
      have hothers : readItems fuel depth (c :: text) = .ok (second :: more, rest) := by
        rw [← htext]
        exact ih (List.cons_ne_nil second more) hmore (by omega)
      rw [List.append_assoc, List.cons_append, hitem.skipSpace_line,
        readItems_next_of_skipSpace (hitem.read (by omega) rfl) htext hopen, hothers]
      rfl

/-- An object is read by its members, which start behind the space after the brace. -/
theorem readValue_object_of_skipSpace {text more : List Char}
    (hskip : skipSpace text = '"' :: more) :
    readValue (fuel + 1) (depth + 1) ('{' :: text) =
      (readMembers fuel depth ('"' :: more)).map
        (fun (members, rest) => (.object (Keyed.ofPairs members), rest)) := by
  rw [readValue, skipSpace_cons (by decide)]
  simp only [hskip]
  simp

/-- The last member of an object stands in front of the closing brace, with space between them. -/
theorem readMembers_last {name : String} {value : Json} {text left : List Char}
    (hread : readValue fuel depth text = .ok (value, left)) (hskip : skipSpace left = '}' :: rest) :
    readMembers (fuel + 1) depth (quote name.toList ++ ':' :: text) =
      .ok ([(name, value)], rest) := by
  have hcolon : skipSpace (':' :: text) = ':' :: text := skipSpace_cons (by decide)
  rw [quote, List.cons_append, List.append_assoc, List.singleton_append, readMembers]
  simp only [readString_quoted, hcolon, hread, hskip, String.ofList_toList]

/-- A member of an object in front of a comma is followed by other members, which start behind the
space after the comma. -/
theorem readMembers_next {name : String} {value : Json} {text left more : List Char}
    (hread : readValue fuel depth text = .ok (value, ',' :: left))
    (hskip : skipSpace left = '"' :: more) :
    readMembers (fuel + 1) depth (quote name.toList ++ ':' :: text) =
      (readMembers fuel depth ('"' :: more)).map
        (fun (members, rest) => ((name, value) :: members, rest)) := by
  have hcolon : skipSpace (':' :: text) = ':' :: text := skipSpace_cons (by decide)
  have hcomma : skipSpace (',' :: left) = ',' :: left := skipSpace_cons (by decide)
  rw [quote, List.cons_append, List.append_assoc, List.singleton_append, readMembers]
  simp only [readString_quoted, hcolon, hread, hcomma, hskip, String.ofList_toList]
  simp

/-- A member on a line of its own starts behind the indentation. -/
theorem skipSpace_memberLine (name : List Char) (text : List Char) :
    skipSpace (indent level ++ quote name ++ text) = quote name ++ text := by
  rw [List.append_assoc, skipSpace_indent, quote, List.cons_append, skipSpace_cons (by decide)]

/-- Two members or more are written as the line of the first one, a comma and the others. -/
theorem printMembersIndented_cons_cons (level : Nat) (first second : String × Json)
    (more : List (String × Json)) :
    printMembersIndented level (first :: second :: more) =
      indent level ++ quote first.1.toList ++ ':' :: ' ' :: first.2.printIndented level ++
        ',' :: printMembersIndented level (second :: more) := by
  simp [printMembersIndented]

/-- The lines of members start with the name of the first member. -/
theorem skipSpace_members (level : Nat) (first : String × Json) (members : List (String × Json))
    (behind : List Char) :
    ∃ more, skipSpace (printMembersIndented level (first :: members) ++ behind) = '"' :: more := by
  cases members with
  | nil =>
    simp only [printMembersIndented, List.append_assoc (indent level ++ _)]
    exact ⟨_, skipSpace_memberLine _ _⟩
  | cons second more =>
    simp only [printMembersIndented_cons_cons, List.append_assoc (indent level ++ _)]
    exact ⟨_, skipSpace_memberLine _ _⟩

/-- The lines of members in front of a closing brace are read back when the value of each member
is. -/
theorem readMembers_printMembersIndented {members : List (String × Json)} (hne : members ≠ [])
    (hmembers : ∀ member ∈ members, IsReadBack depth member.2)
    (hfuel : 2 * (printMembersIndented level members).length ≤ fuel)
    (hend : endsNumber behind = true) (hclose : skipSpace behind = '}' :: rest) :
    readMembers fuel depth (skipSpace (printMembersIndented level members ++ behind)) =
      .ok (members, rest) := by
  induction members generalizing fuel with
  | nil => exact absurd rfl hne
  | cons first members ih =>
    obtain ⟨hfirst, hmore⟩ := List.forall_mem_cons.mp hmembers
    have hvalue (fuel : Nat) (behind : List Char)
        (hfuel : 2 * (first.2.printIndented level).length ≤ fuel + 1)
        (hend : endsNumber behind = true) :
        readValue (fuel + 1) depth (' ' :: (first.2.printIndented level ++ behind)) =
          .ok (first.2, behind) :=
      (readValue_space fuel depth _).trans (hfirst.read hfuel hend)
    cases members with
    | nil =>
      simp only [printMembersIndented, indent, List.length_append, List.length_cons] at hfuel
      obtain ⟨fuel, rfl⟩ := Nat.exists_eq_add_of_le' (show 2 ≤ fuel by omega)
      simp only [printMembersIndented, List.append_assoc (indent level ++ _), List.cons_append]
      rw [skipSpace_memberLine]
      exact readMembers_last (hvalue fuel behind (by omega) hend) hclose
    | cons second more =>
      rw [printMembersIndented_cons_cons] at hfuel ⊢
      simp only [indent, List.length_append, List.length_cons] at hfuel
      obtain ⟨fuel, rfl⟩ := Nat.exists_eq_add_of_le' (show 2 ≤ fuel by omega)
      obtain ⟨text, htext⟩ := skipSpace_members level second more behind
      have hothers : readMembers (fuel + 1) depth ('"' :: text) = .ok (second :: more, rest) := by
        rw [← htext]
        exact ih (List.cons_ne_nil second more) hmore (by omega)
      simp only [List.append_assoc (indent level ++ _), List.cons_append,
        List.append_assoc _ (_ :: _)]
      rw [skipSpace_memberLine, readMembers_next (hvalue fuel _ (by omega) rfl) htext, hothers]
      rfl

end

/-- A value that is written in one line is read back when it is read behind no space. -/
theorem isReadBack_of_print {depth : Nat} {v : Json}
    (hprint : ∀ level, v.printIndented level = v.print)
    (hstart : ∃ c text, v.print = c :: text ∧ isSpace c = false ∧ c ≠ ']')
    (hread : ∀ {fuel rest}, endsNumber rest = true →
      readValue (fuel + 1) depth (v.print ++ rest) = .ok (v, rest)) : IsReadBack depth v := by
  refine ⟨fun level => by rw [hprint]; exact hstart, fun {level fuel rest} hfuel hrest => ?_⟩
  rw [hprint] at hfuel ⊢
  obtain ⟨c, text, htext, -⟩ := hstart
  rw [htext, List.length_cons] at hfuel
  obtain ⟨fuel, rfl⟩ := Nat.exists_eq_add_of_le' (show 1 ≤ fuel by omega)
  exact hread hrest

/-- A list of values that are read back is read back one level above them. -/
theorem isReadBack_array {depth : Nat} {items : List Json}
    (hitems : ∀ item ∈ items, IsReadBack depth item) : IsReadBack (depth + 1) (.array items) := by
  cases items with
  | nil =>
    exact isReadBack_of_print (fun _ => rfl) ⟨'[', [']'], rfl, by decide, by decide⟩
      fun {_ rest} _ => readValue_array_nil rest
  | cons item items =>
    refine ⟨fun level => ⟨'[', _, rfl, by decide, by decide⟩, fun {level fuel rest} hfuel _ => ?_⟩
    simp only [printIndented, List.length_cons, List.length_append, List.length_nil] at hfuel
    obtain ⟨fuel, rfl⟩ := Nat.exists_eq_add_of_le' (show 1 ≤ fuel by omega)
    obtain ⟨hitem, -⟩ := List.forall_mem_cons.mp hitems
    obtain ⟨c, text, htext, hopen⟩ :=
      hitem.skipSpace_items (level + 1) items (indent level ++ ']' :: rest)
    have hclose : skipSpace (indent level ++ ']' :: rest) = ']' :: rest := by
      rw [skipSpace_indent, skipSpace_cons (by decide)]
    have hread : readItems fuel depth (c :: text) = .ok (item :: items, rest) := by
      rw [← htext]
      exact readItems_printItemsIndented (List.cons_ne_nil item items) hitems (by omega)
        (endsNumber_indent level _) hclose
    simp only [printIndented, List.cons_append, List.append_assoc, List.nil_append]
    rw [readValue_array_of_skipSpace htext hopen, hread]
    rfl

/-- An object of values that are read back is read back one level above them if the names of its
members increase. -/
theorem isReadBack_object {depth : Nat} {members : List (String × Json)}
    (hnames : Keyed.Sorted members) (hmembers : ∀ member ∈ members, IsReadBack depth member.2) :
    IsReadBack (depth + 1) (.object members) := by
  cases members with
  | nil =>
    refine isReadBack_of_print (fun _ => rfl) ⟨'{', ['}'], rfl, by decide, by decide⟩
      fun {fuel rest} _ => ?_
    rw [print, readValue, List.cons_append, skipSpace_cons (by decide)]
    rfl
  | cons first members =>
    refine ⟨fun level => ⟨'{', _, rfl, by decide, by decide⟩, fun {level fuel rest} hfuel _ => ?_⟩
    simp only [printIndented, List.length_cons, List.length_append, List.length_nil] at hfuel
    obtain ⟨fuel, rfl⟩ := Nat.exists_eq_add_of_le' (show 1 ≤ fuel by omega)
    obtain ⟨text, htext⟩ :=
      skipSpace_members (level + 1) first members (indent level ++ '}' :: rest)
    have hclose : skipSpace (indent level ++ '}' :: rest) = '}' :: rest := by
      rw [skipSpace_indent, skipSpace_cons (by decide)]
    have hread : readMembers fuel depth ('"' :: text) = .ok (first :: members, rest) := by
      rw [← htext]
      exact readMembers_printMembersIndented (List.cons_ne_nil first members) hmembers (by omega)
        (endsNumber_indent level _) hclose
    simp only [printIndented, List.cons_append, List.append_assoc, List.nil_append]
    rw [readValue_object_of_skipSpace htext, hread]
    simp only [Except.map, hnames.ofPairs_eq]

/-- The text of what an integer is read as starts with a sign or a digit. -/
theorem Number.exists_print_eq_cons {number : Number} (hnumber : number.IsWhole) :
    ∃ c text, number.print = c :: text ∧ isSpace c = false ∧ c ≠ ']' := by
  cases number with
  | integer n =>
    obtain ⟨first, others, hdigits, hall, -⟩ := exists_decimalDigits_eq_cons n.natAbs
    rw [Number.print, decimalInteger]
    split
    · exact ⟨'-', _, rfl, by decide, by decide⟩
    · have hfirst := hall first List.mem_cons_self
      exact ⟨first, others, hdigits, isSpace_of_isDigit hfirst, ne_of_class hfirst rfl⟩
  | double x =>
    obtain rfl : x = .zero true := hnumber
    exact ⟨'-', _, rfl, by decide, by decide⟩

/-- A value that may have been read, and whose numbers are what integers are read as, is read back
from its indented text. -/
theorem isReadBack_of_fits {depth : Nat} {v : Json} (hfits : Fits depth v)
    (hwhole : v.HasWholeNumbers) : IsReadBack depth v := by
  induction hfits with
  | null =>
    refine isReadBack_of_print (fun _ => rfl) ⟨'n', _, rfl, by decide, by decide⟩
      fun {fuel rest} _ => ?_
    rw [print, readValue, List.cons_append, skipSpace_cons (by decide)]
    rfl
  | @bool _ b =>
    exact isReadBack_of_print (fun _ => by cases b <;> rfl) (print_eq_cons (v := .bool b) rfl)
      fun {_ rest} _ => readValue_bool b rest
  | @number _ number =>
    have hnumber := hasWholeNumbers_number_iff.mp hwhole
    exact isReadBack_of_print (fun _ => rfl) (Number.exists_print_eq_cons hnumber)
      fun {fuel rest} hrest => readValue_number hnumber fuel _ hrest
  | @string _ s =>
    exact isReadBack_of_print (fun _ => rfl) (print_eq_cons (v := .string s) rfl)
      fun {_ rest} _ => readValue_string s rest
  | array _ ih =>
    rw [hasWholeNumbers_array_iff] at hwhole
    exact isReadBack_array fun item hmem => ih item hmem (hwhole item hmem)
  | object hnames _ ih =>
    rw [hasWholeNumbers_object_iff] at hwhole
    exact isReadBack_object hnames fun member hmem => ih member hmem (hwhole member hmem)

/-- A value that may have been read within a limit, and whose numbers are what integers are read as,
is read back within the limit from the lines of its indented text. -/
theorem parseChars_printIndented {limit : Nat} {v : Json} (hfits : Fits limit v)
    (hwhole : v.HasWholeNumbers) : parseChars limit (v.printIndented 0 ++ ['\n']) = .ok v := by
  have hfuel : 2 * (v.printIndented 0).length ≤ 2 * (v.printIndented 0 ++ ['\n']).length + 2 := by
    rw [List.length_append]
    omega
  rw [parseChars, (isReadBack_of_fits hfits hwhole).read hfuel rfl]
  rfl

end InventoryQuery.Json
