import SheetPress.Proofs.Template.SharedStyles

/-!
# Styles with and without a memory

A resolver remembers the texts of rules, the colors they spell and the styles that it made, and works
on a registry that others add styles to as well.  `plainStyle` finds the style of a cell without
remembering anything.  Over every sequence of uses the two give the same answers and the same
registry.

* `StyleSession.IsSound` — what is remembered is what would be found again.
* `StyleSession.IsSound.next`, `StyleSession.IsSound.after` — one use keeps this, and so do all.
* `StyleSession.answers_plainly` — what each answer is, and what becomes of the registry.
-/

namespace SheetPress

/-! ## Numbers that are found again -/

namespace StyleRegistry

variable {r r' : StyleRegistry} {style : CellStyle} {id : Nat}

theorem getOrCreate_eq_of_number? (h : r.number? style = some id) : r.getOrCreate style = (id, r) := by
  rw [getOrCreate, h]

/-- A style is found under the number that it was given. -/
theorem number?_getOrCreate_self (r : StyleRegistry) (style : CellStyle) :
    (r.getOrCreate style).2.number? style = some (r.getOrCreate style).1 := by
  rw [number?_getOrCreate]
  cases hknown : r.number? style with
  | some id => simp [getOrCreate_eq_of_number? hknown]
  | none =>
    rw [if_pos ⟨rfl, rfl⟩, getOrCreate, hknown]

theorem size_getOrCreate_le (r : StyleRegistry) (style : CellStyle) :
    (r.getOrCreate style).2.size ≤ r.size + 1 := by
  unfold getOrCreate
  split
  · exact Nat.le_succ _
  · exact (Array.size_push _).le

theorem get_eq_of_getElem? (h : r.styles[id]? = some style) : r.get id = style := by
  rw [get, h, Option.getD_some]

theorem getElem?_of_contains (h : r.contains id = true) : ∃ style, r.styles[id]? = some style :=
  ⟨_, Array.getElem?_eq_getElem (of_decide_eq_true h)⟩

end StyleRegistry

/-! ## Styles without a memory -/

/-- The style of a cell as it is found without remembering anything, and the registry then. -/
def plainStyle (column : TableColumn) (base : Nat) (record : Record) (registry : StyleRegistry) :
    Except TemplateError Nat × StyleRegistry :=
  match coloringOf column base record with
  | .error e => (.error e, registry)
  | .ok key =>
    if key.isPlain then (.ok base, registry)
    else
      let (id, registry) :=
        registry.getOrCreate ((registry.get key.base).recolor key.background key.font)
      (.ok id, registry)

section Plain

variable {column column' : TableColumn} {base base' : Nat} {record record' : Record}
  {registry registry' : StyleRegistry} {key : Coloring} {style : CellStyle}

theorem plainStyle_of_error {e : TemplateError} (h : coloringOf column base record = .error e) :
    plainStyle column base record registry = (.error e, registry) := by
  rw [plainStyle, h]

theorem plainStyle_of_isPlain (h : coloringOf column base record = .ok key)
    (hplain : key.isPlain = true) :
    plainStyle column base record registry = (.ok base, registry) := by
  rw [plainStyle, h]
  exact if_pos hplain

theorem plainStyle_of_colors (h : coloringOf column base record = .ok key)
    (hplain : ¬key.isPlain = true) (hbase : registry.styles[key.base]? = some style) :
    plainStyle column base record registry =
      (.ok (registry.getOrCreate (style.recolor key.background key.font)).1,
        (registry.getOrCreate (style.recolor key.background key.font)).2) := by
  rw [plainStyle, h, ← StyleRegistry.get_eq_of_getElem? hbase]
  exact if_neg hplain

theorem grows_plainStyle (column : TableColumn) (base : Nat) (record : Record)
    (registry : StyleRegistry) :
    registry.Grows (plainStyle column base record registry).2 := by
  unfold plainStyle
  split
  · exact .refl
  · split
    · exact .refl
    · exact registry.grows_getOrCreate _

theorem size_plainStyle_le (column : TableColumn) (base : Nat) (record : Record)
    (registry : StyleRegistry) :
    (plainStyle column base record registry).2.size ≤ registry.size + 1 := by
  unfold plainStyle
  split
  · exact Nat.le_succ _
  · split
    · exact Nat.le_succ _
    · exact registry.size_getOrCreate_le _

/-- The style of a cell is that of its sample in the colors of its rules. -/
theorem plainStyle_eq_ok (hcoherent : registry.Coherent) (h : coloringOf column base record = .ok key)
    (hbase : registry.styles[base]? = some style) :
    ∃ id, (plainStyle column base record registry).1 = .ok id ∧ (key.isPlain = true → id = base) ∧
      (plainStyle column base record registry).2.styles[id]? =
        some (style.recolor key.background key.font) := by
  obtain ⟨rfl, -, -⟩ := coloringOf_eq_ok h
  by_cases hplain : key.isPlain = true
  · obtain ⟨hbackground, hfont⟩ := Bool.and_eq_true_iff.1 hplain
    rw [plainStyle_of_isPlain h hplain, Option.isNone_iff_eq_none.1 hbackground,
      Option.isNone_iff_eq_none.1 hfont]
    exact ⟨key.base, rfl, fun _ => rfl, hbase⟩
  · rw [plainStyle_of_colors h hplain hbase]
    exact ⟨_, rfl, fun hyes => absurd hyes hplain, hcoherent.getElem?_getOrCreate _⟩

/-- When a style was found for some colors on a sample, later cells with the same colors on the same
sample register nothing. -/
theorem plainStyle_again (h : coloringOf column base record = .ok key)
    (h' : coloringOf column' base' record' = .ok key) (hbase : registry.styles[base]? = some style)
    (hgrows : (plainStyle column base record registry).2.Grows registry') :
    (plainStyle column' base' record' registry').2 = registry' := by
  by_cases hplain : key.isPlain = true
  · rw [plainStyle_of_isPlain h' hplain]
  · obtain ⟨rfl, -, -⟩ := coloringOf_eq_ok h
    have hfirst : registry.Grows registry' :=
      (grows_plainStyle column _ record registry).trans hgrows
    -- the colored style has a number since the first use, whatever was registered between the two
    rw [plainStyle_of_colors h hplain hbase] at hgrows
    rw [plainStyle_of_colors h' hplain (hfirst.getElem? hbase),
      StyleRegistry.getOrCreate_eq_of_number?
        (hgrows.number?_eq_some (registry.number?_getOrCreate_self _))]

end Plain

/-! ## Sequences of uses -/

/-- A resolver beside the registry that it works on. -/
structure StyleSession where
  resolver : StyleResolver := {}
  registry : StyleRegistry

/-- What is done with a registry: the style of a cell is resolved, or a style is registered by others. -/
inductive StyleUse where
  | cell (column : TableColumn) (base position : Nat)
  | register (style : CellStyle)

namespace StyleSession

/-- The answer to a use for a cell, where `records` tells the record at a position. -/
def answer (records : Nat → Record) (s : StyleSession) (column : TableColumn)
    (base position : Nat) : Except TemplateError Nat :=
  (s.resolver.resolve column base position (records position) s.registry).1

/-- What a use leaves behind. -/
def next (records : Nat → Record) (s : StyleSession) : StyleUse → StyleSession
  | .cell column base position =>
    let (_, resolver, registry) :=
      s.resolver.resolve column base position (records position) s.registry
    { resolver, registry }
  | .register style => { s with registry := (s.registry.getOrCreate style).2 }

/-- What a sequence of uses leaves behind. -/
def after (records : Nat → Record) (s : StyleSession) (uses : List StyleUse) : StyleSession :=
  uses.foldl (next records) s

/-- Whenever the style of a cell is resolved, the style of its sample is registered. -/
def HasSamples (records : Nat → Record) (s : StyleSession) (uses : List StyleUse) : Prop :=
  ∀ before column base position rest, uses = before ++ .cell column base position :: rest →
    (s.after records before).registry.contains base = true

/-- What is remembered is what would be found again: what the rules give, and the number under which
the registry finds a sample in other colors. -/
structure IsSound (records : Nat → Record) (s : StyleSession) : Prop where
  rules : s.resolver.RemembersRules fun position => some (records position)
  styles : ∀ key id, s.resolver.styles.lookup key = some id →
    ∃ style, s.registry.styles[key.base]? = some style ∧
      s.registry.number? (style.recolor key.background key.font) = some id

variable {records : Nat → Record} {s : StyleSession} {uses rest : List StyleUse}

theorem isSound_init (records : Nat → Record) (registry : StyleRegistry) :
    IsSound records { registry } where
  rules := StyleResolver.remembersRules_init _
  styles key id h := by cases h

theorem next_cell (records : Nat → Record) (s : StyleSession) (column : TableColumn)
    (base position : Nat) :
    s.next records (.cell column base position) =
      ⟨(s.resolver.resolve column base position (records position) s.registry).2.1,
        (s.resolver.resolve column base position (records position) s.registry).2.2⟩ := rfl

theorem after_append (records : Nat → Record) (s : StyleSession) (uses rest : List StyleUse) :
    s.after records (uses ++ rest) = (s.after records uses).after records rest :=
  List.foldl_append

theorem HasSamples.drop (uses : List StyleUse) (h : s.HasSamples records (uses ++ rest)) :
    (s.after records uses).HasSamples records rest := by
  rintro before column base position rest' rfl
  rw [← after_append]
  exact h _ column base position rest' (List.append_assoc ..).symm

/-- What is remembered of styles stays right while the registry grows. -/
theorem IsSound.mono (h : s.IsSound records) {r : StyleResolver} {registry : StyleRegistry}
    (hrules : r.RemembersRules fun position => some (records position))
    (hstyles : r.styles = s.resolver.styles) (hgrows : s.registry.Grows registry) :
    IsSound records ⟨r, registry⟩ where
  rules := hrules
  styles key id hknown := by
    obtain ⟨style, hbase, hnumber⟩ := h.styles key id (hstyles ▸ hknown)
    exact ⟨style, hgrows.getElem? hbase, hgrows.number?_eq_some hnumber⟩

/-- The number for a coloring is the one that is found without a memory, and it is remembered. -/
theorem IsSound.styleFor {r : StyleResolver} {registry : StyleRegistry}
    (h : IsSound records ⟨r, registry⟩) {key : Coloring} {style : CellStyle}
    (hbase : registry.styles[key.base]? = some style) :
    IsSound records ⟨(r.styleFor key registry).2.1, (r.styleFor key registry).2.2⟩ ∧
      ((r.styleFor key registry).1, (r.styleFor key registry).2.2) =
        registry.getOrCreate (style.recolor key.background key.font) := by
  unfold StyleResolver.styleFor
  cases hknown : r.styles.lookup key with
  | some id =>
    -- the sample is as it was when the style was made, so the registry finds the same number
    obtain ⟨style', hbase', hnumber⟩ := h.styles key id hknown
    obtain rfl := Option.some.inj (hbase.symm.trans hbase')
    exact ⟨h, (StyleRegistry.getOrCreate_eq_of_number? hnumber).symm⟩
  | none =>
    rw [StyleRegistry.get_eq_of_getElem? hbase]
    have hgrows := registry.grows_getOrCreate (style.recolor key.background key.font)
    refine ⟨⟨h.rules.of_styles _, fun key' id hlookup => ?_⟩, rfl⟩
    rw [List.lookup_cons] at hlookup
    split at hlookup
    · next heq =>
      obtain rfl := eq_of_beq heq
      obtain rfl := Option.some.inj hlookup
      exact ⟨style, hgrows.getElem? hbase, registry.number?_getOrCreate_self _⟩
    · exact (h.mono h.rules rfl hgrows).styles key' id hlookup

/-- A use for a cell answers what would be answered without a memory, and leaves the same registry. -/
theorem IsSound.next_cell (h : s.IsSound records) (column : TableColumn) {base : Nat}
    (position : Nat) (hbase : s.registry.contains base = true) :
    (s.next records (.cell column base position)).IsSound records ∧
      (s.answer records column base position,
          (s.next records (.cell column base position)).registry) =
        plainStyle column base (records position) s.registry := by
  obtain ⟨style, hstyle⟩ := StyleRegistry.getElem?_of_contains hbase
  obtain ⟨r, hrules, hstyles, hresolve⟩ := h.rules.resolve rfl column base s.registry
  have hkept : IsSound records ⟨r, s.registry⟩ := h.mono hrules hstyles .refl
  rw [StyleSession.next_cell, answer, hresolve]
  cases hcoloring : coloringOf column base (records position) with
  | error e => exact ⟨hkept, (plainStyle_of_error hcoloring).symm⟩
  | ok key =>
    dsimp only
    by_cases hplain : key.isPlain = true
    · rw [if_pos hplain, plainStyle_of_isPlain hcoloring hplain]
      exact ⟨hkept, rfl⟩
    · obtain ⟨rfl, -, -⟩ := coloringOf_eq_ok hcoloring
      obtain ⟨hsound, hnumber⟩ := hkept.styleFor hstyle
      rw [if_neg hplain, plainStyle_of_colors hcoloring hplain hstyle, ← hnumber]
      exact ⟨hsound, rfl⟩

/-- What one use leaves is sound, and the registry has only grown. -/
theorem IsSound.next (h : s.IsSound records) (use : StyleUse)
    (hsamples : s.HasSamples records (use :: rest)) :
    (s.next records use).IsSound records ∧ s.registry.Grows (s.next records use).registry := by
  cases use with
  | cell column base position =>
    obtain ⟨hsound, hplain⟩ := h.next_cell column position (hsamples [] column base position rest rfl)
    have hgrows := grows_plainStyle column base (records position) s.registry
    rw [← hplain] at hgrows
    exact ⟨hsound, hgrows⟩
  | register style =>
    have hgrows := s.registry.grows_getOrCreate style
    exact ⟨h.mono h.rules rfl hgrows, hgrows⟩

/-- What a sequence of uses leaves is sound, and the registry has only grown. -/
theorem IsSound.after (h : s.IsSound records) (hsamples : s.HasSamples records (uses ++ rest)) :
    (s.after records uses).IsSound records ∧ s.registry.Grows (s.after records uses).registry := by
  induction uses generalizing s with
  | nil => exact ⟨h, .refl⟩
  | cons use uses ih =>
    obtain ⟨hnext, hgrows⟩ := h.next use hsamples
    obtain ⟨hafter, hgrows'⟩ := ih hnext (hsamples.drop [use])
    exact ⟨hafter, hgrows.trans hgrows'⟩

/-! ## What is answered -/

/-- The answer to a use for a cell, and what becomes of it through the uses that follow. -/
structure AnswersPlainly (records : Nat → Record) (s : StyleSession) (column : TableColumn)
    (base position : Nat) (rest : List StyleUse) : Prop where
  /-- Without a memory, answer and registry are the same. -/
  plain : (s.answer records column base position,
      (s.next records (.cell column base position)).registry) =
    plainStyle column base (records position) s.registry
  /-- Where a rule fails, the failure is the answer and nothing is registered. -/
  failed : ∀ e, coloringOf column base (records position) = .error e →
    s.answer records column base position = .error e ∧
      (s.next records (.cell column base position)).registry = s.registry
  /-- Where the rules give colors, the answer stands for the style of the sample in these colors, then
  and afterwards; it is that of the sample itself if there are none. -/
  styled : ∀ key, coloringOf column base (records position) = .ok key →
    ∃ id style colored, s.answer records column base position = .ok id ∧
      s.registry.styles[base]? = some style ∧ (key.isPlain = true → id = base) ∧
      style.Colored key.background key.font colored ∧
      ∀ middle last, rest = middle ++ last →
        ((s.next records (.cell column base position)).after records middle).registry.styles[id]? =
          some colored
  /-- At most one style is registered. -/
  size_le : (s.next records (.cell column base position)).registry.size ≤ s.registry.size + 1
  /-- Later uses that ask for the same colors on the same sample register nothing. -/
  once : ∀ key, coloringOf column base (records position) = .ok key →
    ∀ middle column' base' position' last, rest = middle ++ .cell column' base' position' :: last →
      coloringOf column' base' (records position') = .ok key →
      (((s.next records (.cell column base position)).after records middle).next records
          (.cell column' base' position')).registry =
        ((s.next records (.cell column base position)).after records middle).registry

theorem IsSound.answersPlainly (h : s.IsSound records) (hcoherent : s.registry.Coherent)
    {column : TableColumn} {base position : Nat}
    (hsamples : s.HasSamples records (.cell column base position :: rest)) :
    s.AnswersPlainly records column base position rest := by
  have hbase := hsamples [] column base position rest rfl
  obtain ⟨style, hstyle⟩ := StyleRegistry.getElem?_of_contains hbase
  obtain ⟨hnext, hplain⟩ := h.next_cell column position hbase
  have hanswer : s.answer records column base position =
      (plainStyle column base (records position) s.registry).1 := congrArg Prod.fst hplain
  have hregistry : (s.next records (.cell column base position)).registry =
      (plainStyle column base (records position) s.registry).2 := congrArg Prod.snd hplain
  have hrest := hsamples.drop [.cell column base position]
  refine ⟨hplain, fun e herror => ?_, fun key hkey => ?_, ?_, fun key hkey => ?_⟩
  · rw [hanswer, hregistry, plainStyle_of_error herror]
    exact ⟨rfl, rfl⟩
  · obtain ⟨id, hid, hsame, hcolored⟩ := plainStyle_eq_ok hcoherent hkey hstyle
    refine ⟨id, style, _, hanswer.trans hid, hstyle, hsame, style.colored_recolor .., ?_⟩
    rintro middle last rfl
    rw [← hregistry] at hcolored
    exact (hnext.after hrest).2.getElem? hcolored
  · rw [hregistry]
    exact size_plainStyle_le ..
  · rintro middle column' base' position' last rfl hkey'
    obtain ⟨hmiddle, hgrows⟩ := hnext.after hrest
    have hagain := (hmiddle.next_cell column' position'
      ((hrest.drop middle) [] column' base' position' last rfl)).2
    rw [hregistry] at hgrows
    exact (congrArg Prod.snd hagain).trans (plainStyle_again hkey hkey' hstyle hgrows)

/-- The memory of a resolver never changes its answers.  Let a new resolver work on a registry in which
others register styles as well, let `records` tell the record at a position, and let the style of a
sample be registered whenever it is asked for.

* Each use for a cell is answered as it would be without a memory: by the style of the sample, with the
  background and the color of the font that the rules give.
* The style that has a number once has it ever after. -/
theorem answers_plainly {registry : StyleRegistry} (hbuilt : registry.IsBuilt)
    (hsamples : HasSamples records { registry } uses) :
    (∀ before column base position rest, uses = before ++ .cell column base position :: rest →
      AnswersPlainly records (after records { registry } before) column base position rest) ∧
    ∀ before middle rest, uses = before ++ (middle ++ rest) →
      ∀ (id : Nat) (style : CellStyle),
        (after records { registry } before).registry.styles[id]? = some style →
        (after records { registry } (before ++ middle)).registry.styles[id]? = some style := by
  have hinit := isSound_init records registry
  refine ⟨?_, ?_⟩
  · rintro before column base position rest rfl
    obtain ⟨hsound, hgrows⟩ := hinit.after hsamples
    exact hsound.answersPlainly (hgrows.coherent hbuilt.coherent) (hsamples.drop before)
  · rintro before middle rest rfl id style hid
    rw [after_append]
    exact ((hinit.after hsamples).1.after (hsamples.drop before)).2.getElem? hid

/-- A column on a red background. -/
def redColumn : TableColumn where
  templateCol := 1
  header := "Stock"
  backgroundColor := some "FF0000"

/-- A column on a red background whose second rule is no formula. -/
def faultyColumn : TableColumn := { redColumn with fontColor := some "=" }

/-- Two red cells, and between them a style of others and a failure. -/
def redUses : List StyleUse :=
  [.cell redColumn 0 0, .register { wrapText := true }, .cell faultyColumn 0 0, .cell redColumn 0 1]

/-- Every cell of the uses is on the default style. -/
theorem hasSamples_redUses : HasSamples (fun _ => {}) { registry := .initial } redUses := by
  intro before column base position rest h
  have hprefix : redUses.take before.length = before := by rw [h, List.take_left]
  have hlength : before.length < 4 := by
    have hall := congrArg List.length h
    rw [List.length_append, List.length_cons] at hall
    exact Nat.lt_of_lt_of_eq (by omega) hall.symm
  have hmem : .cell column base position ∈ redUses := h ▸ by simp
  obtain rfl : base = 0 := by
    rcases (by simpa [redUses] using hmem) with ⟨-, h, -⟩ | ⟨-, h, -⟩ | ⟨-, h, -⟩ <;> exact h
  have hcontains : ∀ n < 4,
      (after (fun _ => {}) { registry := .initial } (redUses.take n)).registry.contains 0 = true := by
    decide +kernel
  exact hprefix ▸ hcontains _ hlength

/-- The first cell has a red background and keeps it, the failure registers nothing, and neither does
the second red cell. -/
theorem answers_plainly_redUses :
    (∃ id, answer (fun _ => {}) { registry := .initial } redColumn 0 0 = .ok id ∧
      (after (fun _ => {}) { registry := .initial } redUses).registry.styles[id]? =
        some { fill := .solid ⟨255, 0, 0, 255⟩ }) ∧
    (∃ e, answer (fun _ => {}) (after (fun _ => {}) { registry := .initial } (redUses.take 2))
      faultyColumn 0 0 = .error e) ∧
    (after (fun _ => {}) { registry := .initial } (redUses.take 3)).registry =
      (after (fun _ => {}) { registry := .initial } (redUses.take 2)).registry ∧
    (after (fun _ => {}) { registry := .initial } redUses).registry =
      (after (fun _ => {}) { registry := .initial } (redUses.take 3)).registry := by
  have hred : (coloringOf redColumn 0 {}).toOption = some ⟨0, some ⟨255, 0, 0, 255⟩, none⟩ := by
    decide +kernel
  have hfaulty : (coloringOf faultyColumn 0 {}).toOption = none := by decide +kernel
  cases hkey : coloringOf redColumn 0 {} with
  | error e =>
    rw [hkey] at hred
    cases hred
  | ok key =>
    rw [hkey] at hred
    obtain rfl := Option.some.inj hred
    cases herror : coloringOf faultyColumn 0 {} with
    | ok key =>
      rw [herror] at hfaulty
      cases hfaulty
    | error e =>
      have hanswers := (answers_plainly .initial hasSamples_redUses).1
      have hfirst := hanswers [] redColumn 0 0 _ rfl
      have hfailure := hanswers [_, _] faultyColumn 0 0 _ rfl
      obtain ⟨id, style, colored, hid, hstyle, -, hcolored, hlater⟩ := hfirst.styled _ hkey
      obtain rfl : {} = style := Option.some.inj hstyle
      obtain rfl : colored = { fill := .solid ⟨255, 0, 0, 255⟩ } := by
        rw [hcolored.eq, hcolored.fill _ rfl, hcolored.fontColor_none rfl]
      obtain ⟨hanswer, hregistry⟩ := hfailure.failed e herror
      have hlast := hlater [_, _, _] [] rfl
      have honce := hfirst.once _ hkey [_, _] redColumn 0 1 [] rfl hkey
      refine ⟨⟨id, hid, ?_⟩, ⟨e, hanswer⟩, ?_, ?_⟩
      · exact hlast
      · exact hregistry
      · exact honce

end StyleSession

end SheetPress
