import Mathlib
import SheetPress.Template.Subtotal

/-!
# Groups of records and the rows they take

Grouping rearranges records and loses none.  Behind each group stands its summary, so the rows that
some groups take are counted from the groups alone.

* `perm_groupsOf` — the groups hold the records, each of them once.
* `Subtotal.groupRows_append` — the rows of groups are those of the first ones and then the others.
* `Subtotal.mem_apply` — every row is one of a record, or a summary over rows of the table.
* `Subtotal.numbers_groupRows` — the numbers on the rows of groups are those of their members.
-/

namespace SheetPress

/-! ## Groups -/

/-- What is kept of some keys is each of them once. -/
theorem nodup_eraseDups (keys : List String) : keys.eraseDups.Nodup := by
  induction hlen : keys.length using Nat.strong_induction_on generalizing keys with
  | _ n ih =>
    cases keys with
    | nil => exact List.nodup_nil
    | cons key keys =>
      have hshorter := List.length_filter_le (fun b => !b == key) keys
      rw [List.length_cons] at hlen
      rw [List.eraseDups_cons, List.nodup_cons, List.mem_eraseDups]
      exact ⟨by simp, ih _ (by omega) _ rfl⟩

/-- What has one of some keys, key by key, is a rearrangement. -/
theorem perm_flatMap_filter {α : Type} (key : α → String) {keys : List String}
    (hnodup : keys.Nodup) {items : List α} (hkeys : ∀ a ∈ items, key a ∈ keys) :
    (keys.flatMap fun k => items.filter (key · == k)).Perm items := by
  induction keys generalizing items with
  | nil =>
    cases items with
    | nil => exact .nil
    | cons a items => exact absurd (hkeys a (List.mem_cons_self ..)) List.not_mem_nil
  | cons k keys ih =>
    obtain ⟨hnew, hnodup⟩ := List.nodup_cons.1 hnodup
    -- the other keys are found among what does not have the first one
    have hothers : (keys.flatMap fun k' => items.filter (key · == k')) =
        keys.flatMap fun k' => (items.filter fun a => !(key a == k)).filter (key · == k') := by
      refine List.flatMap_congr fun k' hk' => ?_
      rw [List.filter_filter]
      refine List.filter_congr fun a _ => ?_
      by_cases hkey : key a = k'
      · have hne : key a ≠ k := fun heq => hnew (by rwa [← heq, hkey])
        simp [hkey, hkey ▸ hne]
      · simp [hkey]
    have hkeys' : ∀ a ∈ items.filter fun a => !(key a == k), key a ∈ keys := fun a ha => by
      obtain ⟨hmem, hne⟩ := List.mem_filter.1 ha
      rcases List.mem_cons.1 (hkeys a hmem) with heq | hmem'
      · simp [heq] at hne
      · exact hmem'
    rw [List.flatMap_cons, hothers]
    exact ((ih hnodup hkeys').append_left _).trans (List.filter_append_perm (key · == k) items)

section Groups

variable {field : String} {records : List Record}

/-- The groups hold the records, each of them once. -/
theorem perm_groupsOf (field : String) (records : List Record) :
    ((groupsOf field records).flatMap (·.2)).Perm records := by
  unfold groupsOf
  rw [List.flatMap_map]
  refine perm_flatMap_filter (Record.key field) (nodup_eraseDups _) fun r hr => ?_
  rw [List.mem_eraseDups]
  exact List.mem_map_of_mem hr

/-- A group holds the records with its key, in their order. -/
theorem eq_filter_of_mem_groupsOf {key : String} {members : List Record}
    (h : (key, members) ∈ groupsOf field records) :
    members = records.filter (Record.key field · == key) := by
  obtain ⟨key', -, heq⟩ := List.mem_map.1 h
  obtain ⟨rfl, rfl⟩ := Prod.mk.inj heq
  rfl

theorem mem_of_mem_groupsOf {group : String × List Record} (h : group ∈ groupsOf field records)
    {r : Record} (hr : r ∈ group.2) : r ∈ records := by
  obtain ⟨key, members⟩ := group
  rw [eq_filter_of_mem_groupsOf h] at hr
  exact (List.mem_filter.1 hr).1

/-- No group is empty. -/
theorem ne_nil_of_mem_groupsOf {group : String × List Record} (h : group ∈ groupsOf field records) :
    group.2 ≠ [] := by
  obtain ⟨key, hkey, rfl⟩ := List.mem_map.1 h
  rw [List.mem_eraseDups, List.mem_map] at hkey
  obtain ⟨r, hr, rfl⟩ := hkey
  exact List.ne_nil_of_mem (List.mem_filter.2 ⟨hr, beq_self_eq_true _⟩)

end Groups

/-! ## Numbers of records -/

/-- The number that a record carries in a field, if it carries one. -/
def Record.number? (field : String) (r : Record) : Option Float :=
  match r.field? field with
  | some (.number x) => some x
  | _ => none

theorem Record.field?_withField (r : Record) (name other : String) (value : FieldValue) :
    (r.withField name value).field? other = if name = other then some value else r.field? other := by
  simp [Record.field?, Record.withField, Std.ExtTreeMap.getElem?_insert]

theorem length_numberSamples (records : List Record) :
    (numberSamples records).length = records.length :=
  List.length_mapIdx

theorem mem_numberSamples {records : List Record} {r : Record} (h : r ∈ numberSamples records) :
    ∃ member ∈ records, ∃ i, r = { member with sample := some i } := by
  obtain ⟨i, hi, rfl⟩ := List.mem_mapIdx.1 h
  exact ⟨_, List.getElem_mem hi, i, rfl⟩

/-- The samples that records follow do not change their numbers. -/
theorem numbers_numberSamples (field : String) (records : List Record) :
    (numberSamples records).filterMap (Record.number? field) =
      records.filterMap (Record.number? field) := by
  rw [numberSamples, List.mapIdx_eq_zipIdx_map, List.filterMap_map]
  conv_rhs => rw [← List.zipIdx_map_fst 0 records, List.filterMap_map]
  rfl

/-! ## The rows of groups -/

/-- How many rows some groups take with their summaries. -/
def rowsOf (groups : List (String × List Record)) : Nat :=
  (groups.map fun group => group.2.length + 1).sum

theorem rowsOf_cons (group : String × List Record) (groups : List (String × List Record)) :
    rowsOf (group :: groups) = group.2.length + 1 + rowsOf groups := by
  rw [rowsOf, List.map_cons, List.sum_cons]
  rfl

namespace Subtotal

variable {s : Subtotal} {groups : List (String × List Record)}

/-! ### Summaries -/

theorem isSubtotal_summary (s : Subtotal) (label : String) (first last : Nat) :
    (s.summary label first last).isSubtotal = true := rfl

/-- The aggregate of a summary stands in the field that is summed. -/
theorem field?_sumField_summary (s : Subtotal) (label : String) (first last : Nat) :
    (s.summary label first last).field? s.sumField = some (.formula (s.formula first last)) := by
  rw [summary, Record.field?_withField, if_pos rfl]

/-- A summary has its aggregate in the summed field, its label in the field it is grouped by, and
nothing else. -/
theorem field?_summary (s : Subtotal) (label : String) (first last : Nat) (name : String) :
    (s.summary label first last).field? name =
      if s.sumField = name then some (.formula (s.formula first last))
      else if s.groupField = name then some (.text label) else none := by
  rw [summary, Record.field?_withField, Record.field?_withField]
  rfl

/-- The row at a position is a summary with a label in the field that is grouped by. -/
def LabelledAt (s : Subtotal) (rows : List Record) (position : Nat) (label : String) : Prop :=
  ∃ r, rows[position]? = some r ∧ r.isSubtotal = true ∧ r.field? s.groupField = some (.text label)

theorem labelledAt_summary (hne : s.groupField ≠ s.sumField) {rows : List Record} {position : Nat}
    {label : String} {first last : Nat}
    (h : rows[position]? = some (s.summary label first last)) : s.LabelledAt rows position label := by
  refine ⟨_, h, s.isSubtotal_summary .., ?_⟩
  rw [summary, Record.field?_withField, if_neg (Ne.symm hne), Record.field?_withField, if_pos rfl]

theorem number?_summary (s : Subtotal) (label : String) (first last : Nat) :
    (s.summary label first last).number? s.sumField = none := by
  rw [Record.number?, field?_sumField_summary]

/-! ### Groups one after another -/

theorem groupRows_cons (s : Subtotal) (row : Nat) (key : String) (members : List Record)
    (groups : List (String × List Record)) :
    s.groupRows row ((key, members) :: groups) =
      numberSamples members
        ++ s.summary (key ++ " " ++ s.spec.groupSuffix) row (row + members.length - 1)
        :: s.groupRows (row + members.length + 1) groups := rfl

theorem length_groupRows (s : Subtotal) (row : Nat) (groups : List (String × List Record)) :
    (s.groupRows row groups).length = rowsOf groups := by
  induction groups generalizing row with
  | nil => rfl
  | cons group groups ih =>
    obtain ⟨key, members⟩ := group
    rw [groupRows_cons, List.length_append, List.length_cons, ih, length_numberSamples, rowsOf_cons]
    dsimp only
    omega

/-- The rows of groups are those of the first groups and, behind them, those of the others. -/
theorem groupRows_append (s : Subtotal) (row : Nat) (before after : List (String × List Record)) :
    s.groupRows row (before ++ after) =
      s.groupRows row before ++ s.groupRows (row + rowsOf before) after := by
  induction before generalizing row with
  | nil => rfl
  | cons group before ih =>
    obtain ⟨key, members⟩ := group
    rw [List.cons_append, groupRows_cons, groupRows_cons, ih, rowsOf_cons, List.append_assoc,
      List.cons_append]
    have hrow : row + members.length + 1 + rowsOf before =
        row + (members.length + 1 + rowsOf before) := by omega
    rw [hrow]

/-- Every row is a member of a group, or a summary over rows from the first one to the one above. -/
theorem mem_groupRows {row : Nat} {r : Record} (hmembers : ∀ group ∈ groups, group.2 ≠ [])
    (h : r ∈ s.groupRows row groups) :
    (∃ group ∈ groups, ∃ member ∈ group.2, ∃ i, r = { member with sample := some i }) ∨
      ∃ label first last, r = s.summary label first last ∧ row ≤ first ∧ first ≤ last ∧
        last < row + rowsOf groups := by
  induction groups generalizing row with
  | nil => cases h
  | cons group groups ih =>
    obtain ⟨key, members⟩ := group
    have hpos := List.length_pos_of_ne_nil (hmembers _ (List.mem_cons_self ..))
    dsimp only at hpos
    rw [groupRows_cons] at h
    rw [rowsOf_cons]
    dsimp only
    rcases List.mem_append.1 h with hmember | h
    · obtain ⟨member, hmem, i, rfl⟩ := mem_numberSamples hmember
      exact Or.inl ⟨_, List.mem_cons_self .., member, hmem, i, rfl⟩
    · rcases List.mem_cons.1 h with rfl | h
      · exact Or.inr ⟨_, row, row + members.length - 1, rfl, le_rfl, by omega, by omega⟩
      · rcases ih (fun g hg => hmembers g (List.mem_cons_of_mem _ hg)) h with
          ⟨g, hg, member, hmem, i, rfl⟩ | ⟨label, first, last, rfl, hfirst, hle, hlast⟩
        · exact Or.inl ⟨g, List.mem_cons_of_mem _ hg, member, hmem, i, rfl⟩
        · exact Or.inr ⟨label, first, last, rfl, by omega, hle, by omega⟩

/-- The numbers on the rows of groups are those of their members: summaries carry none. -/
theorem numbers_groupRows (s : Subtotal) (row : Nat) (groups : List (String × List Record)) :
    (s.groupRows row groups).filterMap (Record.number? s.sumField) =
      (groups.flatMap (·.2)).filterMap (Record.number? s.sumField) := by
  induction groups generalizing row with
  | nil => rfl
  | cons group groups ih =>
    obtain ⟨key, members⟩ := group
    rw [groupRows_cons, List.filterMap_append, numbers_numberSamples,
      List.filterMap_cons_none (s.number?_summary ..), ih, List.flatMap_cons, List.filterMap_append]

/-! ### The rows of a table with subtotals -/

theorem rowsOf_groupsOf_pos (field : String) {records : List Record} (h : records ≠ []) :
    0 < rowsOf (groupsOf field records) := by
  obtain ⟨r, rest, rfl⟩ := List.exists_cons_of_ne_nil h
  rw [groupsOf, List.map_cons, List.eraseDups_cons, List.map_cons, rowsOf_cons]
  omega

variable {records : List Record}

theorem apply_eq (s : Subtotal) (row : Nat) (h : records ≠ []) :
    s.apply row records =
      s.groupRows row (groupsOf s.groupField records) ++
        [s.summary s.spec.totalLabel row (row + rowsOf (groupsOf s.groupField records) - 1)] := by
  rw [apply, if_neg (by simpa using h)]
  dsimp only
  rw [length_groupRows]

/-- Behind the records of a group stands the summary over their rows. -/
theorem exists_apply_eq (s : Subtotal) (row : Nat) (h : records ≠ [])
    {before after : List (String × List Record)} {key : String} {members : List Record}
    (hgroups : groupsOf s.groupField records = before ++ (key, members) :: after) :
    ∃ rest, s.apply row records =
      s.groupRows row before ++ numberSamples members ++
        s.summary (key ++ " " ++ s.spec.groupSuffix) (row + rowsOf before)
          (row + rowsOf before + members.length - 1) :: rest := by
  refine ⟨s.groupRows (row + rowsOf before + members.length + 1) after ++
    [s.summary s.spec.totalLabel row (row + rowsOf (groupsOf s.groupField records) - 1)], ?_⟩
  rw [apply_eq s row h]
  conv_lhs => rw [hgroups, groupRows_append, groupRows_cons]
  simp only [hgroups, List.append_assoc, List.cons_append]

theorem length_apply (s : Subtotal) (row : Nat) (h : records ≠ []) :
    (s.apply row records).length = rowsOf (groupsOf s.groupField records) + 1 := by
  rw [apply_eq s row h, List.length_append, length_groupRows]
  rfl

/-- Every row of the table is a record on the sample of its place in the group, or a summary over
rows of the table. -/
theorem mem_apply {row : Nat} {r : Record} (hne : records ≠ []) (h : r ∈ s.apply row records) :
    (∃ member ∈ records, ∃ i, r = { member with sample := some i }) ∨
      ∃ label first last, r = s.summary label first last ∧ row ≤ first ∧ first ≤ last ∧
        last < row + (s.apply row records).length := by
  have hgroups : ∀ group ∈ groupsOf s.groupField records, group.2 ≠ [] := fun _ hgroup =>
    ne_nil_of_mem_groupsOf hgroup
  rw [length_apply s row hne]
  rw [apply_eq s row hne] at h
  rcases List.mem_append.1 h with h | h
  · rcases mem_groupRows hgroups h with
      ⟨group, hgroup, member, hmember, i, rfl⟩ | ⟨label, first, last, rfl, hfirst, hle, hlast⟩
    · exact Or.inl ⟨member, mem_of_mem_groupsOf hgroup hmember, i, rfl⟩
    · exact Or.inr ⟨label, first, last, rfl, hfirst, hle, by omega⟩
  · obtain rfl := List.mem_singleton.1 h
    have hpos := rowsOf_groupsOf_pos s.groupField hne
    exact Or.inr ⟨_, _, _, rfl, le_rfl, by omega, by omega⟩

/-- The numbers on all rows are those of the records, group by group. -/
theorem numbers_apply (s : Subtotal) (row : Nat) (h : records ≠ []) :
    (s.apply row records).filterMap (Record.number? s.sumField) =
      ((groupsOf s.groupField records).flatMap (·.2)).filterMap (Record.number? s.sumField) := by
  rw [apply_eq s row h, List.filterMap_append, numbers_groupRows,
    List.filterMap_cons_none (s.number?_summary ..), List.filterMap_nil, List.append_nil]

/-- Each number of the records is on one row. -/
theorem perm_numbers_apply (s : Subtotal) (row : Nat) (h : records ≠ []) :
    ((s.apply row records).filterMap (Record.number? s.sumField)).Perm
      (records.filterMap (Record.number? s.sumField)) := by
  rw [numbers_apply s row h]
  exact (perm_groupsOf s.groupField records).filterMap _

end Subtotal

end SheetPress
