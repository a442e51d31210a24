import Mathlib.Data.List.Forall2
import Mathlib.Data.Option.Basic
import Mathlib.Data.String.Basic
import DocQuery.Json.Reading

/-!
Fields of objects. Insertion changes what is found under one key and keeps the keys in ascending
order (`lookup_insertField`, `ascending_insertField`). Two lists in ascending order are related
field by field if what is found in them is related under each key (`related_of_lookup`). All objects
of a document that is read are in that order, since the reader puts them together by insertion
(`read?_ordered`).
-/

namespace DocQuery.Json

section Fields

variable {fields others : List (String × Json)} {key other : String} {value : Json}

def Ascending (fields : List (String × Json)) : Prop := fields.Pairwise fun a b => a.1 < b.1

theorem lookup_field (key other : String) (value : Json) (rest : List (String × Json)) :
    ((other, value) :: rest).lookup key = if key = other then some value else rest.lookup key := by
  rw [List.lookup_cons]
  by_cases same : key = other
  · simp [same]
  · simp [same, beq_false_of_ne same]

theorem lookup_eq_none (absent : ∀ field ∈ fields, key ≠ field.1) : fields.lookup key = none := by
  induction fields with
  | nil => rfl
  | cons field rest ih =>
      rw [List.forall_mem_cons] at absent
      rw [lookup_field, if_neg absent.1, ih absent.2]

theorem mem_of_lookup (found : fields.lookup key = some value) : (key, value) ∈ fields := by
  induction fields with
  | nil => cases found
  | cons field rest ih =>
      rw [lookup_field] at found
      split at found
      next same =>
        cases found
        simp [same]
      next => exact List.mem_cons_of_mem _ (ih found)

/-- Whatever order the fields have, an insertion changes one key only. -/
theorem lookup_insertField (key other : String) (value : Json) (fields : List (String × Json)) :
    (insertField key value fields).lookup other =
      if other = key then some value else fields.lookup other := by
  induction fields with
  | nil => simp [insertField, lookup_field]
  | cons field rest ih =>
      simp only [insertField]
      split
      next => rw [lookup_field]
      next =>
        split
        next same =>
          rw [lookup_field, lookup_field, same]
          split <;> rfl
        next differ =>
          rw [lookup_field, lookup_field, ih]
          by_cases first : other = field.1
          · have apart : other ≠ key := fun same => differ (same.symm.trans first)
            rw [if_pos first, if_neg apart, if_pos first]
          · rw [if_neg first, if_neg first]

theorem mem_insertField {field : String × Json} (member : field ∈ insertField key value fields) :
    field = (key, value) ∨ field ∈ fields := by
  induction fields with
  | nil => exact .inl (List.mem_singleton.mp member)
  | cons first rest ih =>
      simp only [insertField] at member
      split at member
      next => exact List.mem_cons.mp member
      next =>
        split at member
        next => exact (List.mem_cons.mp member).imp_right (List.mem_cons_of_mem first)
        next =>
          rcases List.mem_cons.mp member with same | member
          · exact .inr (same ▸ List.mem_cons_self)
          · exact (ih member).imp_right (List.mem_cons_of_mem first)

theorem ascending_insertField (ascending : Ascending fields) :
    Ascending (insertField key value fields) := by
  induction fields with
  | nil => exact List.pairwise_singleton _ _
  | cons first rest ih =>
      obtain ⟨least, later⟩ := List.pairwise_cons.mp ascending
      simp only [insertField]
      split
      next before =>
        refine List.pairwise_cons.mpr ⟨List.forall_mem_cons.mpr ⟨before, ?_⟩, ascending⟩
        exact fun field member => before.trans (least field member)
      next notBefore =>
        split
        next same => exact List.pairwise_cons.mpr ⟨same ▸ least, later⟩
        next differ =>
          refine List.pairwise_cons.mpr ⟨fun field member => ?_, ih later⟩
          rcases mem_insertField member with rfl | member
          · exact lt_of_le_of_ne (not_lt.mp notBefore) (Ne.symm differ)
          · exact least field member

theorem Ascending.lookup_head (ascending : Ascending ((key, value) :: fields)) :
    fields.lookup key = none :=
  lookup_eq_none fun _ member => ((List.pairwise_cons.mp ascending).1 _ member).ne

theorem Ascending.lookup_below (ascending : Ascending ((key, value) :: fields))
    (below : other < key) : ((key, value) :: fields).lookup other = none := by
  refine lookup_eq_none (List.forall_mem_cons.mpr ⟨below.ne, fun field member => ?_⟩)
  exact (below.trans ((List.pairwise_cons.mp ascending).1 field member)).ne

variable {R : Json → Json → Prop}

theorem not_rel_some_none : ¬ Option.Rel R (some value) none := nofun

theorem not_rel_none_some : ¬ Option.Rel R none (some value) := nofun

theorem related_of_lookup (ascending : Ascending fields) (ascending' : Ascending others)
    (related : ∀ key, Option.Rel R (fields.lookup key) (others.lookup key)) :
    List.Forall₂ (fun field other => field.1 = other.1 ∧ R field.2 other.2) fields others := by
  -- From lookups to positions: the least key of one list is found in the other and so is the least
  -- there as well, and it is not found behind its place.
  induction fields generalizing others with
  | nil =>
      cases others with
      | nil => exact .nil
      | cons other others =>
          have found := related other.1
          rw [lookup_field, if_pos rfl] at found
          exact absurd found not_rel_none_some
  | cons field fields ih =>
      obtain ⟨key, value⟩ := field
      cases others with
      | nil =>
          have found := related key
          rw [lookup_field, if_pos rfl] at found
          exact absurd found not_rel_some_none
      | cons other others =>
          obtain ⟨key', value'⟩ := other
          rcases lt_trichotomy key key' with below | rfl | above
          · have found := related key
            rw [lookup_field, if_pos rfl, ascending'.lookup_below below] at found
            exact absurd found not_rel_some_none
          · have found := related key
            simp only [lookup_field, if_true, Option.rel_some_some] at found
            refine .cons ⟨rfl, found⟩ (ih (List.pairwise_cons.mp ascending).2
              (List.pairwise_cons.mp ascending').2 fun other => ?_)
            by_cases same : other = key
            · rw [same, ascending.lookup_head, ascending'.lookup_head]
              exact .none
            · simpa only [lookup_field, if_neg same] using related other
          · have found := related key'
            rw [ascending.lookup_below above, lookup_field, if_pos rfl] at found
            exact absurd found not_rel_none_some

theorem lookup_of_related
    (related :
      List.Forall₂ (fun field other => field.1 = other.1 ∧ R field.2 other.2) fields others)
    (key : String) : Option.Rel R (fields.lookup key) (others.lookup key) := by
  induction related with
  | nil => exact .none
  | @cons field other _ _ pair _ ih =>
      rw [lookup_field, lookup_field, ← pair.1]
      split
      · exact .some pair.2
      · exact ih

end Fields

section Documents

inductive Ordered : Json → Prop where
  | null : Ordered .null
  | bool (value : Bool) : Ordered (.bool value)
  | number (value : Number) : Ordered (.number value)
  | text (value : String) : Ordered (.text value)
  | array {items : List Json} (each : ∀ item ∈ items, Ordered item) : Ordered (.array items)
  | object {fields : List (String × Json)} (ascending : Ascending fields)
      (each : ∀ field ∈ fields, Ordered field.2) : Ordered (.object fields)

theorem Ordered.ascending {fields : List (String × Json)} (ordered : Ordered (.object fields)) :
    Ascending fields := by
  cases ordered
  assumption

theorem Ordered.item {items : List Json} (ordered : Ordered (.array items)) {item : Json}
    (member : item ∈ items) : Ordered item := by
  cases ordered with
  | array each => exact each item member

theorem Ordered.consItem {items : List Json} (ordered : Ordered (.array items)) {item : Json}
    (first : Ordered item) : Ordered (.array (item :: items)) :=
  .array (List.forall_mem_cons.mpr ⟨first, fun _ member => ordered.item member⟩)

theorem Ordered.field {fields : List (String × Json)} (ordered : Ordered (.object fields))
    {key : String} {value : Json} (found : fields.lookup key = some value) : Ordered value := by
  cases ordered with
  | object _ each => exact each _ (mem_of_lookup found)

theorem Ordered.insertField {fields : List (String × Json)} (ordered : Ordered (.object fields))
    {key : String} {value : Json} (inserted : Ordered value) :
    Ordered (.object (insertField key value fields)) := by
  cases ordered with
  | object ascending each =>
      refine .object (ascending_insertField ascending) fun field member => ?_
      rcases mem_insertField member with rfl | member
      · exact inserted
      · exact each field member

end Documents

section Reading

def Mark.Ordered : Mark → Prop
  | .scalar item => item.Ordered
  | _ => True

def Frame.Ordered : Frame → Prop
  | .array before => Json.Ordered (.array before)
  | .object before _ => Json.Ordered (.object before)

def Stage.Ordered : Stage → Prop
  | .value outer | .firstItem outer | .firstKey outer => ∀ frame ∈ outer, frame.Ordered
  | .key outer before | .colon outer before _ =>
      (∀ frame ∈ outer, frame.Ordered) ∧ Json.Ordered (.object before)
  | .complete outer item => (∀ frame ∈ outer, frame.Ordered) ∧ item.Ordered

theorem word?_ordered {chars : List Char} {item : Json} (found : Mark.word? chars = some item) :
    item.Ordered := by
  unfold Mark.word? at found
  split at found
  · cases found
    exact .null
  · cases found
    exact .bool true
  · cases found
    exact .bool false
  · obtain ⟨number, -, rfl⟩ := Option.map_eq_some_iff.mp found
    exact .number number

theorem punctuation?_ordered {c : Char} {mark : Mark} (found : Mark.punctuation? c = some mark) :
    mark.Ordered := by
  unfold Mark.punctuation? at found
  split at found <;> cases found <;> trivial

theorem scan?_ordered {chars : List Char} {marks : List Mark}
    (scanned : Mark.scan? chars = some marks) : ∀ mark ∈ marks, mark.Ordered := by
  fun_induction Mark.scan? chars generalizing marks with
  | case1 =>
      cases scanned
      simp
  | case2 c rest gap ih => exact ih scanned
  | case3 rest pieces after read gap ih =>
      obtain ⟨content, -, joined⟩ := Option.bind_eq_some_iff.mp scanned
      obtain ⟨marks, behind, rfl⟩ := Option.map_eq_some_iff.mp joined
      exact List.forall_mem_cons.mpr ⟨trivial, ih behind⟩
  | case4 | case7 => cases scanned
  | case5 c rest gap quote mark found ih =>
      obtain ⟨marks, behind, rfl⟩ := Option.map_eq_some_iff.mp scanned
      exact List.forall_mem_cons.mpr ⟨punctuation?_ordered found, ih behind⟩
  | case6 c rest gap quote unmarked bare ih =>
      obtain ⟨item, word, joined⟩ := Option.bind_eq_some_iff.mp scanned
      obtain ⟨marks, behind, rfl⟩ := Option.map_eq_some_iff.mp joined
      have isOrdered : (Mark.scalar item).Ordered := word?_ordered word
      exact List.forall_mem_cons.mpr ⟨isOrdered, ih behind⟩

theorem start?_ordered {limit : Nat} {outer : List Frame} {mark : Mark} {stage : Stage}
    (frames : ∀ frame ∈ outer, frame.Ordered) (ordered : mark.Ordered)
    (started : Stage.start? limit outer mark = some stage) : stage.Ordered := by
  cases mark with
  | openArray | openObject =>
      obtain ⟨-, ⟨⟩⟩ := Option.ite_none_right_eq_some.mp started
      assumption
  | quoted content =>
      cases started
      exact ⟨frames, .text content⟩
  | scalar item =>
      cases started
      exact ⟨frames, ordered⟩
  | closeArray | closeObject | colon | comma => cases started

theorem step?_ordered {limit : Nat} {stage next : Stage} {mark : Mark} (ordered : stage.Ordered)
    (isOrdered : mark.Ordered) (stepped : Stage.step? limit stage mark = some next) :
    next.Ordered := by
  have noItem : Json.Ordered (.array []) := .array (by simp)
  have noField : Json.Ordered (.object []) := .object .nil (by simp)
  -- One case for each row of the step. Only the rows that close an item or a field put a document
  -- together, and they take its parts from the innermost frame.
  fun_cases Stage.step? limit stage mark
  case case1 outer => exact start?_ordered ordered isOrdered stepped
  case case2 outer =>
    cases stepped
    exact ⟨ordered, noItem⟩
  case case3 outer other =>
    rw [Stage.step?] at stepped
    · have opened : (Frame.array []).Ordered := noItem
      exact start?_ordered (List.forall_mem_cons.mpr ⟨opened, ordered⟩) isOrdered stepped
    · exact other
  case case4 outer =>
    cases stepped
    exact ⟨ordered, noField⟩
  case case5 outer name =>
    cases stepped
    exact ⟨ordered, noField⟩
  case case6 outer before name =>
    cases stepped
    exact ordered
  case case7 outer before name =>
    cases stepped
    exact List.forall_mem_cons.mpr ⟨ordered.2, ordered.1⟩
  case case8 before outer item =>
    cases stepped
    obtain ⟨frames, isItem⟩ := ordered
    obtain ⟨inner, frames⟩ := List.forall_mem_cons.mp frames
    have longer : (Frame.array (item :: before)).Ordered := inner.consItem isItem
    exact List.forall_mem_cons.mpr ⟨longer, frames⟩
  case case9 before outer item =>
    cases stepped
    obtain ⟨frames, isItem⟩ := ordered
    obtain ⟨inner, frames⟩ := List.forall_mem_cons.mp frames
    refine ⟨frames, .array fun other member => ?_⟩
    exact (inner.consItem isItem).item (List.mem_reverse.mp member)
  case case10 before name outer item =>
    cases stepped
    obtain ⟨frames, isItem⟩ := ordered
    obtain ⟨inner, frames⟩ := List.forall_mem_cons.mp frames
    exact ⟨frames, inner.insertField isItem⟩
  case case11 before name outer item =>
    cases stepped
    obtain ⟨frames, isItem⟩ := ordered
    obtain ⟨inner, frames⟩ := List.forall_mem_cons.mp frames
    exact ⟨frames, inner.insertField isItem⟩
  case case12 =>
    rw [Stage.step?] at stepped
    · cases stepped
    all_goals assumption

theorem steps_ordered {limit : Nat} {marks : List Mark} {stage next : Stage}
    (ordered : stage.Ordered) (areOrdered : ∀ mark ∈ marks, mark.Ordered)
    (stepped : marks.foldlM (Stage.step? limit) stage = some next) : next.Ordered := by
  induction marks generalizing stage with
  | nil =>
      cases stepped
      exact ordered
  | cons mark rest ih =>
      rw [List.forall_mem_cons] at areOrdered
      obtain ⟨middle, step, later⟩ := Option.bind_eq_some_iff.mp stepped
      exact ih (step?_ordered ordered areOrdered.1 step) areOrdered.2 later

/-- Documents that are read have their fields in order. -/
theorem read?_ordered {text : String} {document : Json} (read : Json.read? text = some document) :
    document.Ordered := by
  obtain ⟨marks, scanned, behind⟩ := Option.bind_eq_some_iff.mp read
  obtain ⟨stage, stepped, complete⟩ := Option.bind_eq_some_iff.mp behind
  have ordered : stage.Ordered := by
    have nothing : (Stage.value []).Ordered := by simp [Stage.Ordered]
    exact steps_ordered nothing (scan?_ordered scanned) stepped
  unfold Stage.result? at complete
  split at complete
  · cases complete
    exact ordered.2
  · cases complete

end Reading

end DocQuery.Json
