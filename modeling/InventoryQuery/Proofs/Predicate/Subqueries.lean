import InventoryQuery.Predicate.Render
import InventoryQuery.Proofs.Predicate.Unambiguous

/-!
# The texts of sub-queries

A sub-query is written around the name-value filter of its condition. The three names are free texts
as well as the parts of the condition, but they stand as literals, so the text of a sub-query shows
the filter unchanged and stands for one sub-query only.
-/

namespace InventoryQuery

open Json (string array)

namespace Json

/-- A list of two values is their texts between brackets. -/
theorem compact_pair (first second : Json) :
    (array [first, second]).compact = "[" ++ first.compact ++ "," ++ second.compact ++ "]" := by
  apply String.toList_inj.mp
  simp [compact, print, printItems]

/-- A list of three values is their texts between brackets. -/
theorem compact_triple (first second third : Json) :
    (array [first, second, third]).compact =
      "[" ++ first.compact ++ "," ++ second.compact ++ "," ++ third.compact ++ "]" := by
  apply String.toList_inj.mp
  simp [compact, print, printItems]

/-- The literal of a string is read back. -/
theorem parse_compact_string (s : String) : parse (string s).compact = .ok (string s) := by
  rw [parse, compact, String.toList_ofList]
  exact parseChars_print rfl (Nat.zero_le 127)

end Json

namespace Subquery

/-- A sub-query is built from strings, truth values and lists. -/
theorem wrap_isPlain (s : Subquery) (condition : RecordMatch) :
    (s.wrap condition).isPlain = true := by
  cases condition <;> rfl

/-- The text of a sub-query shows the literals of its three names and the name-value filter of its
condition, and nothing else; a literal is read back as its name. Sub-queries with the same text have
the same names and the same condition. -/
theorem render_isFaithful (s : Subquery) (condition : RecordMatch) :
    (∃ filter, (Predicate.leaf (.record condition)).renderNameValueFilter = .ok filter ∧
        s.render condition =
          "[\"in\"," ++ (string s.join).compact ++ ",[\"extract\"," ++ (string s.extract).compact ++
            ",[" ++ (string s.select).compact ++ "," ++ filter ++ "]]]") ∧
      (∀ name : String, Json.parse (string name).compact = .ok (string name)) ∧
      ∀ (t : Subquery) (other : RecordMatch),
        s.render condition = t.render other ↔ s = t ∧ condition = other := by
  refine ⟨⟨condition.nameValueFilter.compact, rfl, ?_⟩, Json.parse_compact_string, ?_⟩
  · rw [render, wrap, Json.compact_triple, Json.compact_triple, Json.compact_pair]
    have hin : (string "in").compact = "\"in\"" := by decide
    have hextract : (string "extract").compact = "\"extract\"" := by decide
    rw [hin, hextract]
    apply String.toList_inj.mp
    simp
  · intro t other
    constructor
    · intro h
      exact wrap_injective
        (Json.compact_injective (s.wrap_isPlain condition) (t.wrap_isPlain other) h)
    · rintro ⟨rfl, rfl⟩
      rfl

end Subquery

end InventoryQuery
