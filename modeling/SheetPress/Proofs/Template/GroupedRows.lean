import SheetPress.Proofs.Template.Subtotals

/-!
# Where grouped records stand

Grouping takes the records group by group, in the order in which the groups are first seen.  The rows
of a group stand together, numbered from 0 on, and the formulas of the summaries name rows by where
they stand, also among records that are summaries of an earlier grouping.

* `firstSeen_eraseDups` — the groups come in the order in which they are first seen.
* `Subtotal.perm_groupRows` — rows of groups are their members and the summaries.
* `Subtotal.apply_spans` — what stands where.
-/

namespace SheetPress

/-! ## Keys in the order they are first seen -/

/-- Some keys are those among some texts, each of them once, in the order they are first seen there. -/
structure FirstSeen (texts keys : List String) : Prop where
  nodup : keys.Nodup
  mem_iff : ∀ key, key ∈ keys ↔ key ∈ texts
  ordered : keys.Pairwise fun a b => texts.idxOf a < texts.idxOf b

/-- Leaving out other texts keeps the order of two that stay. -/
theorem idxOf_lt_of_filter {p : String → Bool} {texts : List String} {a b : String} (ha : p a = true)
    (hb : p b = true) (h : (texts.filter p).idxOf a < (texts.filter p).idxOf b) :
    texts.idxOf a < texts.idxOf b := by
  induction texts with
  | nil => exact h
  | cons text texts ih =>
    cases hp : p text with
    | false =>
      have hne {c : String} (hc : p c = true) : text ≠ c := fun heq => by simp [heq, hc] at hp
      rw [List.filter_cons_of_neg (by simp [hp])] at h
      rw [List.idxOf_cons_ne _ (hne ha), List.idxOf_cons_ne _ (hne hb)]
      exact Nat.succ_lt_succ (ih h)
    | true =>
      rw [List.filter_cons_of_pos hp] at h
      by_cases heqb : text = b
      · subst heqb
        rw [List.idxOf_cons_self] at h
        exact absurd h (Nat.not_lt_zero _)
      · rw [List.idxOf_cons_ne _ heqb] at h ⊢
        by_cases heqa : text = a
        · subst heqa
          rw [List.idxOf_cons_self]
          exact Nat.succ_pos _
        · rw [List.idxOf_cons_ne _ heqa] at h ⊢
          exact Nat.succ_lt_succ (ih (Nat.lt_of_succ_lt_succ h))

theorem pairwise_idxOf_eraseDups (texts : List String) :
    texts.eraseDups.Pairwise fun a b => texts.idxOf a < texts.idxOf b := by
  -- on the length, for the other keys are those of what is left without the first text
  induction hlen : texts.length using Nat.strong_induction_on generalizing texts with
  | _ n ih =>
    cases texts with
    | nil => exact .nil
    | cons text texts =>
      have hshorter := List.length_filter_le (fun b => !b == text) texts
      rw [List.length_cons] at hlen
      rw [List.eraseDups_cons, List.pairwise_cons]
      have hother {b : String} (hb : b ∈ (texts.filter fun b => !b == text).eraseDups) :
          (!b == text) = true := (List.mem_filter.1 (List.mem_eraseDups.1 hb)).2
      have hne {b : String} (hb : (!b == text) = true) : text ≠ b := fun heq => by simp [heq] at hb
      refine ⟨fun b hb => ?_, ?_⟩
      · rw [List.idxOf_cons_self, List.idxOf_cons_ne _ (hne (hother hb))]
        exact Nat.succ_pos _
      · refine (ih _ (by omega) _ rfl).imp_of_mem fun ha hb hlt => ?_
        rw [List.idxOf_cons_ne _ (hne (hother ha)), List.idxOf_cons_ne _ (hne (hother hb))]
        exact Nat.succ_lt_succ (idxOf_lt_of_filter (hother ha) (hother hb) hlt)

/-- Leaving out what was seen before keeps each text where it is first seen. -/
theorem firstSeen_eraseDups (texts : List String) : FirstSeen texts texts.eraseDups where
  nodup := nodup_eraseDups texts
  mem_iff _ := List.mem_eraseDups
  ordered := pairwise_idxOf_eraseDups texts

/-- There is one list of keys in the order they are first seen. -/
theorem FirstSeen.eq_eraseDups {texts keys : List String} (h : FirstSeen texts keys) :
    keys = texts.eraseDups := by
  have hall := firstSeen_eraseDups texts
  have hperm : keys.Perm texts.eraseDups := (List.perm_ext_iff_of_nodup h.nodup hall.nodup).2
    fun key => (h.mem_iff key).trans (hall.mem_iff key).symm
  exact hperm.eq_of_pairwise (fun a b _ _ hab hba => absurd hab hba.not_gt) h.ordered hall.ordered

/-! ## Members of a group -/

/-- The records with a key, in their order. -/
def membersOf (field : String) (records : List Record) (key : String) : List Record :=
  records.filter (Record.key field · == key)

/-- The place in the list of the first member of a group, by the keys of the groups before it. -/
def groupStart (field : String) (records : List Record) (before : List String) : Nat :=
  (before.map fun key => (membersOf field records key).length + 1).sum

section Members

variable {field : String} {records : List Record} {keys : List String} {key : String}

theorem rowsOf_membersOf (field : String) (records : List Record) (keys : List String) :
    rowsOf (keys.map fun key => (key, membersOf field records key)) =
      groupStart field records keys := by
  rw [rowsOf, List.map_map]
  rfl

theorem length_membersOf_pos (h : key ∈ records.map (Record.key field)) :
    0 < (membersOf field records key).length := by
  obtain ⟨r, hr, rfl⟩ := List.mem_map.1 h
  exact List.length_pos_of_mem (List.mem_filter.2 ⟨hr, beq_self_eq_true _⟩)

theorem getElem?_numberSamples {members : List Record} {i : Nat} {member : Record}
    (h : members[i]? = some member) :
    (numberSamples members)[i]? = some { member with sample := some i } := by
  rw [numberSamples, List.getElem?_mapIdx, h, Option.map_some]

end Members

/-! ## Records without their samples -/

/-- A record that follows no sample of its own. -/
def Record.unnumbered (r : Record) : Record := { r with sample := none }

theorem map_unnumbered_numberSamples (records : List Record) :
    (numberSamples records).map Record.unnumbered = records.map Record.unnumbered := by
  rw [numberSamples, List.mapIdx_eq_zipIdx_map, List.map_map]
  conv_rhs => rw [← List.zipIdx_map_fst 0 records, List.map_map]
  rfl

namespace Subtotal

variable {s : Subtotal} {records : List Record}

/-- A record is a summary over some rows: a subtotal with a label in the field that is grouped by, its
formula in the field that is summed, and no other field.  The formula is read as the aggregate of the
summed column from the first of these rows to the last. -/
structure Summarises (s : Subtotal) (r : Record) (label : String) (first last : Nat) : Prop where
  kind : r.kind = .subtotal
  label : r.field? s.groupField = some (.text label)
  formula : r.field? s.sumField = some (.formula (s.formula first last))
  names : ∀ col, s.sumColumn = columnName col → 0 < first → first ≤ last → last < indexLimit →
    parseFormula (s.formula first last) = .ok (subtotalExpr s.spec.code
      ⟨columnName col, first, false, false⟩ ⟨columnName col, last, false, false⟩)
  others : ∀ name, name ≠ s.groupField → name ≠ s.sumField → r.field? name = none

theorem summarises_summary (hne : s.groupField ≠ s.sumField) (label : String) (first last : Nat) :
    s.Summarises (s.summary label first last) label first last where
  kind := rfl
  label := by rw [s.field?_summary, if_neg (Ne.symm hne), if_pos rfl]
  formula := s.field?_sumField_summary label first last
  names _ := parseFormula_formula
  others name hgroup hsum := by
    rw [s.field?_summary, if_neg (Ne.symm hsum), if_neg (Ne.symm hgroup)]

/-- The rows of groups are their members and a summary for each, but for the samples. -/
theorem perm_groupRows (s : Subtotal) (row : Nat) (groups : List (String × List Record)) :
    ∃ summaries : List Record, summaries.length = groups.length ∧
      (∀ r ∈ summaries, ∃ label first last, r = s.summary label first last) ∧
      ((s.groupRows row groups).map Record.unnumbered).Perm
        ((groups.flatMap (·.2) ++ summaries).map Record.unnumbered) := by
  induction groups generalizing row with
  | nil => exact ⟨[], rfl, fun _ h => absurd h List.not_mem_nil, .nil⟩
  | cons group groups ih =>
    obtain ⟨key, members⟩ := group
    obtain ⟨summaries, hlength, hsummaries, hperm⟩ := ih (row + members.length + 1)
    refine ⟨s.summary (key ++ " " ++ s.spec.groupSuffix) row (row + members.length - 1) :: summaries,
      by simp [hlength], List.forall_mem_cons.2 ⟨⟨_, _, _, rfl⟩, hsummaries⟩, ?_⟩
    rw [groupRows_cons, List.map_append, List.map_cons, map_unnumbered_numberSamples,
      List.flatMap_cons, List.append_assoc, List.map_append]
    refine List.Perm.append_left _ ((hperm.cons _).trans ?_)
    rw [List.map_append, List.map_append, List.map_cons]
    exact List.perm_middle.symm

/-- The rows of a table are its records, each of them once, and the summaries, but for the samples. -/
theorem perm_apply (s : Subtotal) (row : Nat) (hne : records ≠ []) :
    ∃ summaries : List Record, summaries.length = (groupsOf s.groupField records).length + 1 ∧
      (∀ r ∈ summaries, ∃ label first last, r = s.summary label first last) ∧
      ((s.apply row records).map Record.unnumbered).Perm
        ((records ++ summaries).map Record.unnumbered) := by
  obtain ⟨summaries, hlength, hsummaries, hperm⟩ :=
    s.perm_groupRows row (groupsOf s.groupField records)
  rw [apply_eq s row hne]
  refine ⟨summaries ++ [s.summary s.spec.totalLabel row
    (row + rowsOf (groupsOf s.groupField records) - 1)], ?_, fun r hr => ?_, ?_⟩
  · rw [List.length_append, hlength, List.length_singleton]
  · rcases List.mem_append.1 hr with hr | hr
    · exact hsummaries r hr
    · exact ⟨_, _, _, List.mem_singleton.1 hr⟩
  · rw [List.map_append, ← List.append_assoc, List.map_append]
    refine (hperm.trans ?_).append_right _
    exact ((perm_groupsOf s.groupField records).append_right summaries).map Record.unnumbered

variable {before after : List String} {key : String}

/-- The rows of a group behind those of the groups before it: its members on samples from the first one
on, and then its summary, which names their rows. -/
theorem apply_group (hne : records ≠ [])
    (hkeys : (records.map (Record.key s.groupField)).eraseDups = before ++ key :: after) (row : Nat) :
    (∀ i member, (membersOf s.groupField records key)[i]? = some member →
      (s.apply row records)[groupStart s.groupField records before + i]? =
        some { member with sample := some i }) ∧
    (s.apply row records)[groupStart s.groupField records before +
        (membersOf s.groupField records key).length]? =
      some (s.summary (key ++ " " ++ s.spec.groupSuffix)
        (row + groupStart s.groupField records before)
        (row + groupStart s.groupField records before +
          (membersOf s.groupField records key).length - 1)) := by
  have hgroups : groupsOf s.groupField records =
      before.map (fun key => (key, membersOf s.groupField records key)) ++
        (key, membersOf s.groupField records key) ::
          after.map (fun key => (key, membersOf s.groupField records key)) := by
    rw [groupsOf, hkeys, List.map_append, List.map_cons]
    rfl
  obtain ⟨rest, hrows⟩ := s.exists_apply_eq row hne hgroups
  have hfront := s.length_groupRows row
    (before.map fun key => (key, membersOf s.groupField records key))
  rw [rowsOf_membersOf] at hrows hfront
  rw [hrows, ← hfront]
  refine ⟨fun i member hmember => ?_, ?_⟩
  · have hi := (List.getElem?_eq_some_iff.1 hmember).1
    rw [List.append_assoc, List.getElem?_append_right (Nat.le_add_right ..), Nat.add_sub_cancel_left,
      List.getElem?_append_left (by rwa [length_numberSamples])]
    exact getElem?_numberSamples hmember
  · rw [List.getElem?_append_right (by rw [List.length_append, length_numberSamples]),
      List.length_append, length_numberSamples, Nat.sub_self]
    rfl

/-- Grouping loses nothing, and its formulas span exactly the groups.  Let records, which may be
summaries of an earlier grouping themselves, be grouped by one field and summed over another, and let
the first of the rows that come out land on row `row`.

* The groups come in the order in which their keys are first seen, each of them once.
* The members of a group, which are the records with its key in their order, stand one below the other
  from position `p` to position `q`, behind the groups before theirs.  They follow the samples from the
  first one on and are otherwise unchanged.  Below them stands a summary with the name of the group and
  the formula over the rows `row + p` to `row + q`.
* The last row is the grand total over all rows above it.
* There are as many rows as records, groups and one more: but for the samples, the rows are the records,
  each of them once, and the summaries. -/
theorem apply_spans {row : Nat} {out : List Record} (hne : records ≠ [])
    (hfields : s.groupField ≠ s.sumField) (hout : s.apply row records = out) :
    ∃ keys, FirstSeen (records.map (Record.key s.groupField)) keys ∧
      (∀ before key after, keys = before ++ key :: after →
        ∃ p q, p = groupStart s.groupField records before ∧
          p + (membersOf s.groupField records key).length = q + 1 ∧
          (∀ i member, (membersOf s.groupField records key)[i]? = some member →
            out[p + i]? = some { member with sample := some i }) ∧
          ∃ r, out[q + 1]? = some r ∧
            s.Summarises r (key ++ " " ++ s.spec.groupSuffix) (row + p) (row + q)) ∧
      (∃ r, out[out.length - 1]? = some r ∧
        s.Summarises r s.spec.totalLabel row (row + out.length - 2)) ∧
      out.length = records.length + keys.length + 1 ∧
      ∃ summaries : List Record, summaries.length = keys.length + 1 ∧
        (∀ r ∈ summaries, ∃ label first last, s.Summarises r label first last) ∧
        (out.map Record.unnumbered).Perm ((records ++ summaries).map Record.unnumbered) := by
  subst hout
  have hseen := firstSeen_eraseDups (records.map (Record.key s.groupField))
  refine ⟨_, hseen, fun before key after hkeys => ?_, ?_, ?_⟩
  · have hkey : key ∈ records.map (Record.key s.groupField) :=
      (hseen.mem_iff key).1 (hkeys ▸ List.mem_append_right _ (List.mem_cons_self ..))
    obtain ⟨n, hn⟩ := Nat.exists_eq_succ_of_ne_zero (length_membersOf_pos hkey).ne'
    obtain ⟨hmembers, hsummary⟩ := s.apply_group hne hkeys row
    rw [hn, show row + groupStart s.groupField records before + n.succ - 1 =
      row + (groupStart s.groupField records before + n) by omega] at hsummary
    exact ⟨_, groupStart s.groupField records before + n, rfl, congrArg _ hn, hmembers, _, hsummary,
      summarises_summary hfields _ _ _⟩
  · have hpos := rowsOf_groupsOf_pos s.groupField hne
    rw [length_apply s row hne, Nat.add_sub_cancel, apply_eq s row hne,
      show row + (rowsOf (groupsOf s.groupField records) + 1) - 2 =
        row + rowsOf (groupsOf s.groupField records) - 1 by omega]
    refine ⟨_, ?_, summarises_summary hfields _ _ _⟩
    rw [List.getElem?_append_right (by rw [length_groupRows]), length_groupRows, Nat.sub_self]
    rfl
  · obtain ⟨summaries, hlength, hsummaries, hperm⟩ := s.perm_apply row hne
    rw [groupsOf, List.length_map] at hlength
    refine ⟨?_, summaries, hlength, fun r hr => ?_, hperm⟩
    · have hrows := hperm.length_eq
      rw [List.length_map, List.length_map, List.length_append, hlength] at hrows
      rw [hrows, Nat.add_assoc]
    · obtain ⟨label, first, last, rfl⟩ := hsummaries r hr
      exact ⟨label, first, last, summarises_summary hfields _ _ _⟩

/-- The count of visits to a place. -/
def visits (place : String) (count : Float) : Record :=
  (({} : Record).withField "place" (.text place)).withField "count" (.number count)

/-- Visits are summed by place. -/
def visitSums : Subtotal := ⟨"place", "count", "B", ⟨9, "Sum", "Total", "All"⟩⟩

/-- Visits to two places, summed by place, from the second row on. -/
def visitRows : List Record :=
  visitSums.apply 2 [visits "Hill" 3, visits "Lake" 4, visits "Hill" 5]

/-- Visits that were summed by place are summed by place again: the first sums are rows among the
others, in groups of their own. -/
theorem apply_spans_visitRows :
    (visitSums.apply 2 visitRows).length = 12 ∧
      (∃ r, (visitSums.apply 2 visitRows)[2]? = some r ∧
        visitSums.Summarises r "Hill Total" 2 3) ∧
      parseFormula (visitSums.formula 2 3) = .ok (subtotalExpr 9
        ⟨columnName 1, 2, false, false⟩ ⟨columnName 1, 3, false, false⟩) ∧
      (∃ r, (visitSums.apply 2 visitRows)[4]? = some r ∧
        visitSums.Summarises r "Hill Total Total" 5 5) ∧
      ∃ r, (visitSums.apply 2 visitRows)[11]? = some r ∧ visitSums.Summarises r "All" 2 12 := by
  have hne : visitRows ≠ [] := List.cons_ne_nil _ _
  have hout : visitSums.apply 2 visitRows = visitSums.apply 2 visitRows := rfl
  obtain ⟨keys, hseen, hgroups, htotal, hlength, -⟩ := Subtotal.apply_spans hne (by decide) hout
  obtain rfl : keys = ["Hill", "Hill Total", "Lake", "Lake Total", "All"] := hseen.eq_eraseDups
  obtain ⟨_, q, rfl, hq, -, hhill⟩ := hgroups [] "Hill" _ rfl
  obtain rfl : 1 = q := Nat.succ.inj hq
  obtain ⟨_, q, rfl, hq, -, htwice⟩ := hgroups ["Hill"] "Hill Total" _ rfl
  obtain rfl : 3 = q := Nat.succ.inj hq
  have hcolumn : visitSums.sumColumn = columnName 1 := by
    rw [columnName, columnLetters]
    rfl
  obtain ⟨r, hr, hsummary⟩ := hhill
  have hnames := hsummary.names 1 hcolumn (by decide) (by decide) (by decide)
  exact ⟨hlength, ⟨r, hr, hsummary⟩, hnames, htwice, htotal⟩

end Subtotal

end SheetPress
