/-!
# Environment variables

An environment gives values to variable names.  Variables can be set one at a
time, or a whole environment can be laid over another one.

Main definitions:

- {lit}`Environment` and {lit}`Environment.get?`: variables and their values.
- {lit}`Environment.insert`: an environment with one variable set.
- {lit}`Environment.laidOver`: one environment laid over another.
- {lit}`Environment.received?`: a variable as a started program receives it.
-/

namespace AgentRelay

/-- Variables with their values.  Of several entries with one name the first
counts. -/
structure Environment where
  entries : List (String × String)
deriving DecidableEq, Repr, Inhabited

namespace Environment

/-- The environment without variables. -/
def empty : Environment :=
  ⟨[]⟩

/-- The value of a variable. -/
def get? (env : Environment) (name : String) : Option String :=
  env.entries.lookup name

/-- An environment with one variable set. -/
def insert (env : Environment) (name value : String) : Environment :=
  ⟨(name, value) :: env.entries.filter fun entry => entry.1 ≠ name⟩

/-- An environment laid over another one: where both set a variable, the upper
one counts. -/
def laidOver (upper lower : Environment) : Environment :=
  ⟨upper.entries ++ lower.entries⟩

/-- What stands behind the first equals sign of {lit}`name ++ "=" ++ value`, if
{lit}`key` stands before it. -/
def assigned? (key name value : String) : Option String :=
  let text := (name ++ "=" ++ value).toList
  if (key ++ "=").toList.isPrefixOf text then some (String.ofList (text.drop (key.length + 1)))
  else none

/-- The value under which a started program receives a variable.  Names and
values are handed over in one text with an equals sign between them, in the
order of the names, and the last text counts; so a name that holds an equals
sign itself sets the variable before the sign. -/
def received? (env : Environment) (key : String) : Option String :=
  let longer := env.entries.filter fun entry =>
    entry.1 ≠ key && (assigned? key entry.1 entry.2).isSome
  let last := longer.foldl (fun best entry =>
    if best.any fun (b : String × String) => entry.1 ≤ b.1 then best else some entry) none
  match last with
  | some (name, value) => assigned? key name value
  | none => env.get? key

/-- A variable has the value it was set to. -/
@[simp]
theorem get?_insert_self (env : Environment) (name value : String) :
    (env.insert name value).get? name = some value := by
  simp [get?, insert]

/-- Setting a variable leaves the others alone. -/
theorem get?_insert_of_ne (env : Environment) {name key : String} (h : key ≠ name)
    (value : String) : (env.insert name value).get? key = env.get? key := by
  have hne : (key == name) = false := by simp [h]
  simp only [get?, insert, List.lookup_cons, hne]
  induction env.entries with
  | nil => rfl
  | cons entry rest ih =>
    obtain ⟨other, old⟩ := entry
    by_cases ho : other = name
    · subst ho
      simpa [List.lookup_cons, hne] using ih
    · cases hk : key == other
      · simpa [ho, List.lookup_cons, hk] using ih
      · simp [ho, List.lookup_cons, hk]

/-- The upper environment counts wherever it sets a variable. -/
theorem get?_laidOver (upper lower : Environment) (name : String) :
    (upper.laidOver lower).get? name = (upper.get? name).or (lower.get? name) := by
  simp only [get?, laidOver]
  induction upper.entries with
  | nil => simp
  | cons entry rest ih =>
    obtain ⟨other, value⟩ := entry
    cases h : name == other <;> simp [List.lookup_cons, h, ih]

/-- A variable without a longer name beside it is received as it is. -/
theorem received?_of_forall {env : Environment} {key : String}
    (h : ∀ entry ∈ env.entries, entry.1 ≠ key → assigned? key entry.1 entry.2 = none) :
    env.received? key = env.get? key := by
  have hnil : (env.entries.filter fun entry =>
      entry.1 ≠ key && (assigned? key entry.1 entry.2).isSome) = [] := by
    rw [List.filter_eq_nil_iff]
    intro entry hm
    by_cases hn : entry.1 = key
    · simp [hn]
    · simp [hn, h entry hm hn]
  simp only [received?, hnil, List.foldl_nil]

end Environment
end AgentRelay
