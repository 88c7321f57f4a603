/-! # Texts with separators

Texts with a separator between each two, seen from the first of them and from any of them. -/

namespace Traversal.Text

variable (sep s : String)

/-- Each text but the first has the separator before it. -/
theorem intercalate_cons (back : List String) :
    sep.intercalate (s :: back) = s ++ String.join (back.map (sep ++ ·)) := by
  induction back generalizing s with
  | nil => simp [String.intercalate_singleton]
  | cons t back ih => simp [String.intercalate_cons_cons, ih, String.append_assoc]

/-- Texts before the given one have the separator behind them. -/
theorem intercalate_append_cons (front back : List String) :
    sep.intercalate (front ++ s :: back) =
      String.join (front.map (· ++ sep)) ++ s ++ String.join (back.map (sep ++ ·)) := by
  induction front with
  | nil => simp [intercalate_cons]
  | cons t front ih =>
    rw [List.cons_append, String.intercalate_cons_of_ne_nil (by simp), ih]
    simp [String.append_assoc]

theorem toList_intercalate_cons (back : List String) : (sep.intercalate (s :: back)).toList =
    s.toList ++ back.flatMap fun t => sep.toList ++ t.toList := by
  rw [intercalate_cons]
  simp [List.flatMap_map]

end Traversal.Text
