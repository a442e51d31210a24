import Mathlib.Data.String.Basic
import DocQuery.Proofs.Query.RoundTrip
import DocQuery.Store.Projection

/-!
Paths as dotted texts. A text without a dot is one segment, and the segments of two texts with a dot
between them are those of the first and then those of the second (`segments_append`). So the last
segment of a path is what stands behind its last dot (`lastSegment_eq_iff`), and to follow a path is
to follow what stands in front of a dot and from there what stands behind it (`lookup_composes`).
-/

namespace DocQuery

theorem segments_ne_nil (text : List Char) : segments text ≠ [] := by
  fun_cases segments text <;> simp

theorem segments_dotFree {text : List Char} (free : '.' ∉ text) : segments text = [text] := by
  induction text with
  | nil => rfl
  | cons c rest ih =>
      rw [List.mem_cons, not_or] at free
      rw [segments, if_neg (Ne.symm free.1), ih free.2]

/-- A dot between two paths separates their segments. -/
theorem segments_append (before after : List Char) :
    segments (before ++ '.' :: after) = segments before ++ segments after := by
  induction before with
  | nil => simp [segments]
  | cons c rest ih =>
      rw [List.cons_append, segments, segments, ih]
      split
      · rfl
      · obtain ⟨first, others, split⟩ := List.exists_cons_of_ne_nil (segments_ne_nil rest)
        simp [split]

/-- What stands behind the last dot of a path, or the whole path if it has no dot. -/
def IsLastSegment (path key : String) : Prop :=
  '.' ∉ key.toList ∧ (path = key ∨ ∃ before, path = before ++ "." ++ key)

theorem exists_isLastSegment (path : String) : ∃ key, IsLastSegment path key := by
  have behind : ∀ text : List Char, ∃ key, '.' ∉ key ∧
      (text = key ∨ ∃ before, text = before ++ '.' :: key) := by
    intro text
    induction text with
    | nil => exact ⟨[], by simp, .inl rfl⟩
    | cons c rest ih =>
        obtain ⟨key, free, rfl | ⟨before, rfl⟩⟩ := ih
        · by_cases dot : c = '.'
          · exact ⟨rest, free, .inr ⟨[], by rw [dot]; rfl⟩⟩
          · exact ⟨c :: rest, by simp [Ne.symm dot, free], .inl rfl⟩
        · exact ⟨key, free, .inr ⟨c :: before, rfl⟩⟩
  obtain ⟨key, free, whole | ⟨before, split⟩⟩ := behind path.toList
  · refine ⟨String.ofList key, by simpa using free, .inl ?_⟩
    rw [← whole, String.ofList_toList]
  · refine ⟨String.ofList key, by simpa using free, .inr ⟨String.ofList before, ?_⟩⟩
    rw [← String.toList_inj, split]
    simp

theorem lastSegment_of_isLastSegment {path key : String} (last : IsLastSegment path key) :
    lastSegment path = key := by
  obtain ⟨free, rfl | ⟨before, rfl⟩⟩ := last
  · rw [lastSegment, segments_dotFree free]
    simp
  · have split : (before ++ "." ++ key).toList = before.toList ++ '.' :: key.toList := by simp
    rw [lastSegment, split, segments_append, segments_dotFree free]
    simp

theorem lastSegment_eq_iff (path key : String) :
    lastSegment path = key ↔ IsLastSegment path key := by
  constructor
  · rintro rfl
    obtain ⟨key, last⟩ := exists_isLastSegment path
    rwa [lastSegment_of_isLastSegment last]
  · exact lastSegment_of_isLastSegment

section Following

/-- A segment is read as a key or as an index where the path has led to, so that nothing need be
known of the records. -/
theorem lookup?_append (record : Json) (before after : String) :
    record.lookup? (before ++ "." ++ after) =
      (record.lookup? before).bind (·.lookup? after) := by
  have split : (before ++ "." ++ after).toList = before.toList ++ '.' :: after.toList := by simp
  rw [Json.lookup?, split, segments_append, List.foldlM_append]
  rfl

theorem path_qualified {table : Table} {qualifier : String} (dotFree : '.' ∉ qualifier.toList)
    (named : table.answersTo qualifier = true) (path : String) :
    (ColumnRef.ofText (qualifier ++ "." ++ path)).path table = .ok path := by
  have cut : ColumnRef.ofText (qualifier ++ "." ++ path) = ⟨path, some qualifier⟩ :=
    @Grammar.ofText_render ⟨path, some qualifier⟩ dotFree
  simp only [cut, ColumnRef.path, named, ↓reduceIte]

/-- A path is followed in two stretches, cut at any of its dots. A qualifier that
names the table is no part of it. -/
theorem lookup_composes (record : Json) (before after : String) :
    (∀ value, record.lookup? (before ++ "." ++ after) = some value ↔
      ∃ inner, record.lookup? before = some inner ∧ inner.lookup? after = some value) ∧
    ∀ (table : Table) (qualifier : String), '.' ∉ qualifier.toList →
      table.answersTo qualifier = true →
        ((ColumnRef.ofText (qualifier ++ "." ++ before)).path table).map record.lookup? =
          .ok (record.lookup? before) := by
  constructor
  · intro value
    rw [lookup?_append, Option.bind_eq_some_iff]
  · intro table qualifier dotFree named
    rw [path_qualified dotFree named]
    rfl

def emptyKeyed : Json := .object [("list", .array [.null, .object [("", .text "held")]])]

theorem empty_key_reached :
    emptyKeyed.lookup? "list.+01" = some (.object [("", .text "held")]) ∧
      (Json.object [("", .text "held")]).lookup? "" = some (.text "held") ∧
      emptyKeyed.lookup? ("list.+01" ++ "." ++ "") = some (.text "held") ∧
      ((ColumnRef.ofText ("c" ++ "." ++ "list.+01")).path ⟨"a.b", some "c"⟩).map
          emptyKeyed.lookup? =
        .ok (some (.object [("", .text "held")])) := by
  have reached : emptyKeyed.lookup? "list.+01" = some (.object [("", .text "held")]) := rfl
  have held : (Json.object [("", .text "held")]).lookup? "" = some (.text "held") := rfl
  obtain ⟨composes, qualified⟩ := lookup_composes emptyKeyed "list.+01" ""
  have named := qualified ⟨"a.b", some "c"⟩ "c" (by decide) (by decide)
  rw [reached] at named
  exact ⟨reached, held, (composes _).mpr ⟨_, reached, held⟩, named⟩

end Following

end DocQuery
