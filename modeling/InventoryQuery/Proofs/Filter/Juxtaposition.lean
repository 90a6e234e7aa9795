import InventoryQuery.CommandLine.Run
import InventoryQuery.Proofs.Filter.Faithful

/-!
# Filters side by side

A filter with blanks and another filter behind it is read as the terms of both, provided that it
leaves no bracket open. The first one is cut as it is by itself, since every term starts with no
bracket open, and the blanks between the two end its last term. So the words of a command line are
read as the terms of all of them.
-/

namespace InventoryQuery.Filter

open Text (isBlank)

/-- The terms that a filter was read as. -/
def conjuncts : Option Predicate → List Predicate
  | none => []
  | some (.group .and members) => members
  | some p => [p]

/-- What a filter with the given terms is read as. -/
def conjoin : List Predicate → Option Predicate
  | [] => none
  | [single] => some single
  | several => some (.group .and several)

/-- Terms are always combined without an error. -/
theorem conjunction_eq (members : List Predicate) : conjunction members = .ok (conjoin members) := by
  match members with
  | [] => rfl
  | [_] => rfl
  | _ :: _ :: _ => rfl

/-- A filter is read term by term. -/
theorem parse_eq (filter : String) :
    parse filter = ((terms filter.toList).mapM readTerm).map conjoin := by
  rw [parse]
  cases (terms filter.toList).mapM readTerm with
  | error e => rfl
  | ok members => exact conjunction_eq members

/-- The terms of a filter are found again in what it is read as, for none of them is a
conjunction. -/
theorem conjuncts_conjoin {members : List Predicate} (hterms : ∀ p ∈ members, p.isTerm = true) :
    conjuncts (conjoin members) = members := by
  match members with
  | [] => rfl
  | [.leaf _] => rfl
  | [.not _] => rfl
  | [.group .or _] => rfl
  | [.group .and _] => exact absurd (hterms _ (.head _)) Bool.false_ne_true
  | _ :: _ :: _ => rfl

/-- Texts that are read as terms are read as predicates in the form of terms. -/
theorem isTerm_of_mapM_readTerm {texts : List (List Char)} {members : List Predicate}
    (h : texts.mapM readTerm = .ok members) : ∀ p ∈ members, p.isTerm = true :=
  forall_mem_of_forall₂ (mapM_eq_ok_iff.mp h) fun _ _ hread => (isTermFor_of_readTerm hread).isTerm

/-- What a filter is read as is combined from its terms. -/
theorem conjoin_conjuncts {filter : String} {p : Option Predicate} (h : parse filter = .ok p) :
    conjoin (conjuncts p) = p ∧ ∀ term ∈ conjuncts p, term.isTerm = true := by
  rw [parse_eq] at h
  obtain ⟨members, hmembers, rfl⟩ := map_eq_ok_iff.mp h
  have hterms := isTerm_of_mapM_readTerm hmembers
  rw [conjuncts_conjoin hterms]
  exact ⟨rfl, hterms⟩

/-- Blanks do not change the depth. -/
theorem depthAfter_of_isBlank {blanks : List Char} (hblanks : ∀ b ∈ blanks, isBlank b = true)
    (depth : Nat) : depthAfter depth blanks = depth := by
  induction blanks with
  | nil => rfl
  | cons b blanks ih =>
    rw [List.forall_mem_cons] at hblanks
    rw [depthAfter_cons, nest_of_isBlank hblanks.1, ih hblanks.2]

/-- Blanks in front belong to no term. -/
theorem IsLaidOut.blanks {ts : List (List Char)} {text blanks : List Char}
    (hblanks : ∀ b ∈ blanks, Text.isBlank b = true) (h : IsLaidOut ts text) :
    IsLaidOut ts (blanks ++ text) := by
  induction blanks with
  | nil => exact h
  | cons b blanks ih =>
    rw [List.forall_mem_cons] at hblanks
    exact .blank hblanks.1 (ih hblanks.2)

/-- Two texts with blanks between them are laid out as the terms of both when the first one leaves
no bracket open. -/
theorem IsLaidOut.append {ts us : List (List Char)} {a b : List Char} (ha : IsLaidOut ts a)
    (hb : IsLaidOut us b) (hclosed : depthAfter 0 a = 0) {blank : Char} {blanks : List Char}
    (hblank : Text.isBlank blank = true) (hblanks : ∀ c ∈ blanks, Text.isBlank c = true) :
    IsLaidOut (ts ++ us) (a ++ blank :: (blanks ++ b)) := by
  induction ha with
  | nil => exact .blank hblank (hb.blanks hblanks)
  | @blank c ts text hc _ ih =>
    rw [depthAfter_cons, nest_of_isBlank hc] at hclosed
    exact .blank hc (ih hclosed)
  | @last term trailing hne hholds _ htrailing =>
    rw [depthAfter_append, depthAfter_of_isBlank htrailing] at hclosed
    cases trailing with
    | nil =>
      rw [List.append_nil]
      exact .term hne hholds hclosed hblank (hb.blanks hblanks)
    | cons c trailing =>
      rw [List.forall_mem_cons] at htrailing
      rw [List.append_assoc, List.cons_append]
      exact .term hne hholds hclosed htrailing.1
        (.blanks htrailing.2 (.blank hblank (hb.blanks hblanks)))
  | @term term c ts text hne hholds hterm hc _ ih =>
    rw [depthAfter_append, hterm, depthAfter_cons, nest_of_isBlank hc] at hclosed
    rw [List.append_assoc]
    exact .term hne hholds hterm hc (ih hclosed)

/-- Two texts with blanks between them have the terms of the first one and then those of the second
one when the first one leaves no bracket open. -/
theorem terms_append_blanks {a blanks : List Char} (b : List Char) (hclosed : depthAfter 0 a = 0)
    (hne : blanks ≠ []) (hblanks : ∀ c ∈ blanks, isBlank c = true) :
    terms (a ++ blanks ++ b) = terms a ++ terms b := by
  obtain ⟨blank, blanks, rfl⟩ := List.exists_cons_of_ne_nil hne
  rw [List.forall_mem_cons] at hblanks
  have hlaid := (isLaidOut_terms a).append (isLaidOut_terms b) hclosed hblanks.1 hblanks.2
  rw [List.append_assoc, List.cons_append, hlaid.terms_eq]

/-- Two filters with blanks between them are read as the terms of both when the first one leaves no
bracket open. -/
theorem parse_append_blanks {a blanks : String} (b : String) (hclosed : depthAfter 0 a.toList = 0)
    (hne : blanks ≠ "") (hblanks : ∀ c ∈ blanks.toList, isBlank c = true) :
    parse (a ++ blanks ++ b) =
      (parse a).bind fun p => (parse b).map fun q => conjoin (conjuncts p ++ conjuncts q) := by
  have hterms := terms_append_blanks b.toList hclosed (by simpa using hne) hblanks
  rw [parse_eq, parse_eq, parse_eq, String.toList_append, String.toList_append, hterms,
    mapM_append_eq]
  cases hps : (terms a.toList).mapM readTerm with
  | error e => rfl
  | ok ps =>
    cases hqs : (terms b.toList).mapM readTerm with
    | error e => rfl
    | ok qs =>
      change Except.ok (conjoin (ps ++ qs)) =
        .ok (conjoin (conjuncts (conjoin ps) ++ conjuncts (conjoin qs)))
      rw [conjuncts_conjoin (isTerm_of_mapM_readTerm hps), conjuncts_conjoin (isTerm_of_mapM_readTerm hqs)]

/-- The terms of filters that are read one by one are in the form of terms. -/
theorem isTerm_of_mapM {words : List String} {filters : List (Option Predicate)}
    (h : words.mapM parse = .ok filters) :
    ∀ term ∈ filters.flatMap conjuncts, term.isTerm = true := by
  have hfilters : ∀ p ∈ filters, ∀ term ∈ conjuncts p, term.isTerm = true :=
    forall_mem_of_forall₂ (mapM_eq_ok_iff.mp h) fun _ _ hread => (conjoin_conjuncts hread).2
  intro term hterm
  obtain ⟨p, hp, hterm⟩ := List.mem_flatMap.mp hterm
  exact hfilters p hp term hterm

/-- The words of a command line are read as the terms of all of them when none leaves a bracket
open. -/
theorem readFilter_eq_mapM {words : List String}
    (hclosed : ∀ word ∈ words, depthAfter 0 word.toList = 0) :
    CommandLine.readFilter words =
      (words.mapM parse).map fun filters => conjoin (filters.flatMap conjuncts) := by
  induction words with
  | nil => rfl
  | cons word words ih =>
    rw [List.forall_mem_cons] at hclosed
    rw [CommandLine.readFilter, List.mapM_cons]
    cases words with
    | nil =>
      rw [String.intercalate_singleton]
      cases hword : parse word with
      | error e => rfl
      | ok p =>
        change Except.ok p = .ok (conjoin (conjuncts p ++ []))
        rw [List.append_nil, (conjoin_conjuncts hword).1]
    | cons second more =>
      have hrest := ih hclosed.2
      have hspace : ∀ c ∈ " ".toList, isBlank c = true := List.all_eq_true.mp (by decide)
      rw [CommandLine.readFilter] at hrest
      rw [String.intercalate_cons_cons,
        parse_append_blanks _ hclosed.1 (by decide) hspace, hrest]
      cases parse word with
      | error e => rfl
      | ok p =>
        cases hfilters : (second :: more).mapM parse with
        | error e => rfl
        | ok filters =>
          change Except.ok (conjoin (conjuncts p ++ conjuncts (conjoin (filters.flatMap conjuncts)))) =
            .ok (conjoin (conjuncts p ++ filters.flatMap conjuncts))
          rw [conjuncts_conjoin (isTerm_of_mapM hfilters)]

/-- White space stands for conjunction. Two filters with blanks between them are read as the first
failure among them or as the terms of both, and so are the words of a command line, unless one in
front of another leaves a bracket open. What a filter is read as is combined from its terms, none of
which is a conjunction. -/
theorem parse_juxtaposition :
    (∀ a blanks b : String, depthAfter 0 a.toList = 0 → blanks ≠ "" →
      (∀ c ∈ blanks.toList, isBlank c = true) →
        parse (a ++ blanks ++ b) =
          (parse a).bind fun p => (parse b).map fun q => conjoin (conjuncts p ++ conjuncts q)) ∧
    (∀ words : List String, (∀ word ∈ words, depthAfter 0 word.toList = 0) →
      CommandLine.readFilter words =
        (words.mapM parse).map fun filters => conjoin (filters.flatMap conjuncts)) ∧
    ∀ (filter : String) (p : Option Predicate), parse filter = .ok p →
      conjoin (conjuncts p) = p ∧ ∀ term ∈ conjuncts p, term.isTerm = true :=
  ⟨fun _ _ b hclosed hne hblanks => parse_append_blanks b hclosed hne hblanks,
    fun _ hclosed => readFilter_eq_mapM hclosed, fun _ _ h => conjoin_conjuncts h⟩

/-- A filter with a bracket that nothing opens, and a blank in brackets. -/
def updateFilter : Predicate :=
  .group .and [.fact ⟨"os", "x]", "~"⟩, .resource ⟨"Exec", "apt-get update", false, "="⟩]

/-- A filter with a bracket that nothing closes. -/
def unclosedFilter : Predicate :=
  .group .and [.not (.node ⟨"web", "="⟩), .fact ⟨"os", "[a b", "~"⟩]

/-- The terms on both sides of a tabulator and a wide space are those of the two filters, of which
only the second one leaves a bracket open, and an empty word adds no term to the others. -/
theorem parse_juxtaposition_update :
    depthAfter 0 "fact:os~x] resource:Exec[apt-get update]".toList = 0 ∧
      parse ("fact:os~x] resource:Exec[apt-get update]" ++ "\t\u3000" ++ " !web fact:os~[a b ") =
        .ok (some (.group .and
          [.fact ⟨"os", "x]", "~"⟩, .resource ⟨"Exec", "apt-get update", false, "="⟩,
            .not (.node ⟨"web", "="⟩), .fact ⟨"os", "[a b", "~"⟩])) ∧
      CommandLine.readFilter ["fact:os~x] resource:Exec[apt-get update]", "", "has:x"] =
        .ok (some (.group .and
          [.fact ⟨"os", "x]", "~"⟩, .resource ⟨"Exec", "apt-get update", false, "="⟩,
            .factPresence "x"])) ∧
      ∀ term ∈ conjuncts (some unclosedFilter), term.isTerm = true := by
  have hclosed : depthAfter 0 "fact:os~x] resource:Exec[apt-get update]".toList = 0 := by decide
  have hupdate : parse "fact:os~x] resource:Exec[apt-get update]" = .ok (some updateFilter) := by cbv
  have hunclosed : parse " !web fact:os~[a b " = .ok (some unclosedFilter) := by cbv
  have hempty : parse "" = .ok none := by rfl
  have hpresence : parse "has:x" = .ok (some (.factPresence "x")) := by cbv
  refine ⟨hclosed, ?_, ?_, (parse_juxtaposition.2.2 _ _ hunclosed).2⟩
  · have hblanks : ∀ c ∈ "\t\u3000".toList, isBlank c = true := List.all_eq_true.mp (by decide)
    rw [parse_juxtaposition.1 _ _ _ hclosed (by decide) hblanks, hupdate, hunclosed]
    rfl
  · rw [parse_juxtaposition.2.1 _ (by decide), List.mapM_cons, List.mapM_cons, List.mapM_cons, hupdate,
      hempty, hpresence]
    rfl

end InventoryQuery.Filter
