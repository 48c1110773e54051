import AgentRelay.Tool.Invocation
import Mathlib

/-!
# Reading the arguments of a request back

The options of a request become arguments in a fixed order, each flag with its value behind it
and the last one without.  Read from the left, a flag tells whether the next argument is its
value, so that values are never taken for flags, whatever they look like, and no two requests
with different options have the same arguments.  A path counts as the text that it is shown as.

Main definitions:

- {lit}`Invocation.slots` and {lit}`Invocation.given`: the options there are, and those that a
  request gives.
- {lit}`readOptions`: arguments read from the left.

Main results:

- Theorem {lit}`readOptions_written`: options that were written are read back.
- Theorem {lit}`Invocation.lookup_given`: an option is given if its slot is filled.
- Theorem {lit}`Invocation.args_decodable`: two requests have the same arguments exactly if they
  have the same options.
-/

namespace AgentRelay

/-! ## Options as arguments -/

/-- The flag that takes no value. -/
def bareFlag : String :=
  "--full-auto"

/-- A flag with its value, if it has one. -/
abbrev GivenOption := String × Option String

/-- An option as arguments. -/
def GivenOption.written (o : GivenOption) : List String :=
  o.1 :: o.2.toList

/-- Arguments read from the left: every flag but one takes the argument behind it. -/
def readOptions : List String → List GivenOption
  | [] => []
  | [flag] => [(flag, none)]
  | flag :: value :: rest =>
    if flag = bareFlag then (flag, none) :: readOptions (value :: rest)
    else (flag, some value) :: readOptions rest

theorem readOptions_bare (rest : List String) :
    readOptions (bareFlag :: rest) = (bareFlag, none) :: readOptions rest := by
  cases rest with
  | nil => rfl
  | cons value rest => rw [readOptions, if_pos rfl]

theorem readOptions_valued {flag : String} (h : flag ≠ bareFlag) (value : String)
    (rest : List String) :
    readOptions (flag :: value :: rest) = (flag, some value) :: readOptions rest := by
  rw [readOptions, if_neg h]

/-- Options that were written one after the other are read back, whatever their values are. -/
theorem readOptions_written {options : List GivenOption}
    (h : ∀ o ∈ options, o.2 = none ↔ o.1 = bareFlag) :
    readOptions (options.flatMap GivenOption.written) = options := by
  induction options with
  | nil => rfl
  | cons o options ih =>
    rw [List.forall_mem_cons] at h
    obtain ⟨flag, value?⟩ := o
    rw [List.flatMap_cons]
    cases value? with
    | none =>
      obtain rfl : flag = bareFlag := h.1.1 rfl
      exact (readOptions_bare _).trans (congrArg _ (ih h.2))
    | some value =>
      have hflag : flag ≠ bareFlag := fun hbare => Option.some_ne_none _ (h.1.2 hbare)
      exact (readOptions_valued hflag value _).trans (congrArg _ (ih h.2))

/-! ## The options of a request -/

/-- The options of those slots that are filled. -/
def filled (slots : List (String × Option (Option String))) : List GivenOption :=
  slots.flatMap fun slot => (slot.2.map fun value? => (slot.1, value?)).toList

theorem mem_filled_iff {slots : List (String × Option (Option String))} {o : GivenOption} :
    o ∈ filled slots ↔ (o.1, some o.2) ∈ slots := by
  obtain ⟨flag, value?⟩ := o
  simp [filled]

theorem flags_filled_sublist (slots : List (String × Option (Option String))) :
    ((filled slots).map Prod.fst).Sublist (slots.map Prod.fst) := by
  induction slots with
  | nil => exact .slnil
  | cons slot slots ih =>
    obtain ⟨flag, content?⟩ := slot
    cases content? with
    | none => exact ih.cons flag
    | some content => exact ih.cons_cons flag

/-- A flag that no slot has is not given. -/
theorem ne_filled_of_notMem {slots : List (String × Option (Option String))} {flag : String}
    (h : flag ∉ slots.map Prod.fst) (value? : Option String) (rest : List GivenOption) :
    (flag, value?) :: rest ≠ filled slots := by
  intro heq
  have hmem : (flag, value?) ∈ filled slots := heq ▸ List.mem_cons_self
  exact h (List.mem_map.2 ⟨_, mem_filled_iff.1 hmem, rfl⟩)

/-- Where every slot has a flag of its own, the given options tell what all slots hold. -/
theorem filled_injective {slots slots' : List (String × Option (Option String))}
    (hflags : slots.map Prod.fst = slots'.map Prod.fst) (hnodup : (slots.map Prod.fst).Nodup)
    (h : filled slots = filled slots') : slots = slots' := by
  induction slots generalizing slots' with
  | nil => exact (List.map_eq_nil_iff.1 hflags.symm).symm
  | cons slot slots ih =>
    obtain ⟨flag, content?⟩ := slot
    obtain ⟨⟨flag', content?'⟩, slots', rfl, hflag, hrest⟩ := List.map_eq_cons_iff.1 hflags.symm
    obtain rfl : flag = flag' := hflag.symm
    rw [List.map_cons, List.nodup_cons] at hnodup
    have hnew := hnodup.1
    have hnew' : flag ∉ slots'.map Prod.fst := hrest ▸ hnew
    -- A slot that is filled on one side only would have its flag a second time on the other.
    cases content? with
    | none =>
      cases content?' with
      | none => rw [ih hrest.symm hnodup.2 h]
      | some value? => exact absurd h.symm (ne_filled_of_notMem hnew value? _)
    | some value? =>
      cases content?' with
      | none => exact absurd h (ne_filled_of_notMem hnew' value? _)
      | some value?' =>
        obtain ⟨hvalue, htail⟩ := List.cons.inj h
        rw [(Prod.mk.inj hvalue).2, ih hrest.symm hnodup.2 htail]

namespace Invocation

/-- What a request fills the slots with, in the order they are written. -/
def slots (i : Invocation) : List (String × Option (Option String)) :=
  [("--model", i.requestedModel.map some),
   ("--output-schema", i.outputSchema.map some),
   ("--sandbox", (i.sandbox.map SandboxMode.name).map some),
   (bareFlag, if i.fullAuto then some none else none)]

/-- The options that a request gives. -/
def given (i : Invocation) : List GivenOption :=
  filled i.slots

/-- The flags there are, in the order they are written. -/
def flags : List String :=
  ["--model", "--output-schema", "--sandbox", bareFlag]

theorem nodup_map_fst_slots (i : Invocation) : (i.slots.map Prod.fst).Nodup := by
  have hflags : flags.Nodup := by decide
  exact hflags

/-- The options of a request are what stands behind the first two arguments. -/
theorem drop_two_args (i : Invocation) : i.args.drop 2 = i.given.flatMap GivenOption.written := by
  have hoption : ∀ (flag : String) (value? : Option String),
      ((value?.map some).map fun value? => (flag, value?)).toList.flatMap GivenOption.written =
        option flag value? := by
    intro flag value?
    cases value? <;> rfl
  have hbare : ((if i.fullAuto then some none else none).map
      fun value? => (bareFlag, value?)).toList.flatMap GivenOption.written =
        if i.fullAuto then ["--full-auto"] else [] := by
    cases i.fullAuto <;> rfl
  simp only [given, filled, slots, List.flatMap_cons, List.flatMap_append,
    List.flatMap_nil, hoption, hbare]
  simp [args]

/-- One flag is given without a value, and all others with one. -/
theorem value_eq_none_iff {i : Invocation} {o : GivenOption} (h : o ∈ i.given) :
    o.2 = none ↔ o.1 = bareFlag := by
  have hvalued : ∀ {flag : String} {value? : Option String}, flag ≠ bareFlag →
      o.1 = flag → some o.2 = value?.map some → (o.2 = none ↔ o.1 = bareFlag) := by
    rintro _ value? hflag rfl hvalue
    cases value? with
    | none => cases hvalue
    | some value => simp [Option.some.inj hvalue, hflag]
  simp only [given, mem_filled_iff, slots, List.mem_cons, Prod.mk.injEq, List.not_mem_nil,
    or_false] at h
  rcases h with ⟨hflag, hvalue⟩ | ⟨hflag, hvalue⟩ | ⟨hflag, hvalue⟩ | ⟨hflag, hvalue⟩
  · exact hvalued (by decide) hflag hvalue
  · exact hvalued (by decide) hflag hvalue
  · exact hvalued (by decide) hflag hvalue
  · split at hvalue
    · simp [Option.some.inj hvalue, hflag]
    · cases hvalue

/-- Read from the left, the arguments of a request are its options. -/
theorem readOptions_args (i : Invocation) : readOptions (i.args.drop 2) = i.given := by
  rw [drop_two_args]
  exact readOptions_written fun _ ho => value_eq_none_iff ho

/-- The model that is asked for is the trimmed one, and a blank one counts as missing. -/
theorem requestedModel_eq_iff (i j : Invocation) : i.requestedModel = j.requestedModel ↔
    Text.trim (i.model.getD "") = Text.trim (j.model.getD "") := by
  have hrequested : ∀ i : Invocation, i.requestedModel =
      if Text.trim (i.model.getD "") = "" then none else some (Text.trim (i.model.getD "")) := by
    have hempty : Text.trim "" = "" := by decide
    intro i
    unfold requestedModel
    cases i.model with
    | none => rw [Option.bind_none, Option.getD_none, if_pos hempty]
    | some model => rfl
  have hinjective : ∀ t u : String,
      (if t = "" then none else some t) = (if u = "" then none else some u) ↔ t = u := by
    grind
  rw [hrequested, hrequested, hinjective]

/-- Requests that give the same options ask for the same. -/
theorem given_eq_iff (i j : Invocation) : i.given = j.given ↔
    i.requestedModel = j.requestedModel ∧ i.outputSchema = j.outputSchema ∧
      i.sandbox = j.sandbox ∧ i.fullAuto = j.fullAuto := by
  constructor
  · intro h
    have hslots : i.slots = j.slots := filled_injective rfl i.nodup_map_fst_slots h
    simp only [slots, List.cons.injEq, Prod.mk.injEq, true_and, and_true] at hslots
    obtain ⟨hmodel, hschema, hsandbox, hfullAuto⟩ := hslots
    have hsome := Option.map_injective (Option.some_injective String)
    have hname : Function.Injective SandboxMode.name := fun _ _ => SandboxMode.name_injective
    refine ⟨hsome hmodel, hsome hschema, Option.map_injective hname (hsome hsandbox), ?_⟩
    cases hi : i.fullAuto <;> cases hj : j.fullAuto <;> simp_all
  · rintro ⟨hmodel, hschema, hsandbox, hfullAuto⟩
    rw [given, given, slots, slots, hmodel, hschema, hsandbox, hfullAuto]

/-- Two requests have the same arguments exactly if they ask for the same model, where blank
characters do not count and a blank model is none, for the same output schema and sandbox mode,
and both or none for full autonomy.  The arguments begin with the same two, behind which every
flag stands at most once, in a fixed order: read from the left, they are the options given. -/
theorem args_decodable (i j : Invocation) :
    (i.args = j.args ↔ Text.trim (i.model.getD "") = Text.trim (j.model.getD "") ∧
      i.outputSchema = j.outputSchema ∧ i.sandbox = j.sandbox ∧ i.fullAuto = j.fullAuto) ∧
    i.args.take 2 = ["exec", "--json"] ∧
    readOptions (i.args.drop 2) = i.given ∧
    (i.given.map Prod.fst).Sublist ["--model", "--output-schema", "--sandbox", "--full-auto"] := by
  refine ⟨?_, i.take_two_args, i.readOptions_args, flags_filled_sublist i.slots⟩
  rw [← requestedModel_eq_iff, ← given_eq_iff]
  constructor
  · intro h
    rw [← i.readOptions_args, ← j.readOptions_args, h]
  · intro h
    rw [← List.take_append_drop 2 i.args, ← List.take_append_drop 2 j.args, i.take_two_args,
      j.take_two_args, i.drop_two_args, j.drop_two_args, h]

/-- A model and a schema that look like flags are read as the values they are. -/
example : readOptions ["--model", "--sandbox", "--output-schema", "--full-auto", "--full-auto"] =
    [("--model", some "--sandbox"), ("--output-schema", some "--full-auto"),
      ("--full-auto", none)] := by
  decide

end Invocation
end AgentRelay
