import Mathlib.Data.List.Nodup
import Mathlib.Logic.Function.Basic
import DeviceFleet.Proofs.Text.Numeral
import DeviceFleet.Settings.Environment

/-! What the environment makes of settings. Each setting has a variable of its own, and the
variables are read one by one: what a setting takes from its variable does not depend on the
others, or on what the setting was before. So the settings of the environment stay the same
when they are taken again, and what is loaded is what the source has where the environment
has nothing to take. -/

namespace DeviceFleet

namespace Policy

/-- The characters are the name of the policy in letters of either case. -/
def Spelled (cs : List Char) (p : Policy) : Prop := cs.map Char.toLower = p.name.toList

theorem policy?_eq_some (s : String) (p : Policy) :
    Environment.policy? s = some p ↔ Spelled s.toList p := by
  rw [Spelled, ← String.toList_map, String.toList_inj, Environment.policy?, ofName]
  by_cases isBlock : s.map Char.toLower = "block"
  · rw [isBlock]
    cases p <;> decide
  by_cases isReject : s.map Char.toLower = "reject"
  · rw [isReject]
    cases p <;> decide
  rw [if_neg isBlock, if_neg isReject]
  cases p with
  | block => exact iff_of_false nofun isBlock
  | reject => exact iff_of_false nofun isReject

theorem toLower_of_isBlank {c : Char} (h : Text.isBlank c = true) : c.toLower = c := by
  refine dif_neg fun upper => ?_
  have lo : 65 ≤ c.toNat := upper.1
  have hi : c.toNat ≤ 90 := upper.2
  simp only [Text.isBlank, Bool.or_eq_true, Bool.and_eq_true, decide_eq_true_eq, beq_iff_eq] at h
  omega

theorem Spelled.solid {cs : List Char} {p : Policy} (h : Spelled cs p) :
    ∀ c ∈ cs, Text.isBlank c = false := by
  have letters : p.name.toList.all (!Text.isBlank ·) = true := by
    cases p <;> decide
  intro c hc
  rw [← Bool.not_eq_true]
  intro blank
  have lower : c ∈ p.name.toList := by
    rw [← h, ← toLower_of_isBlank blank]
    exact List.mem_map_of_mem hc
  have noBlank := List.all_eq_true.1 letters c lower
  rw [blank] at noBlank
  cases noBlank

end Policy

namespace Environment

theorem parsed_some {α : Type} (parse? : String → Option α) (v : String) :
    parsed parse? (some v) = parse? (Text.trim v) := rfl

/-- The report of a value that is not taken. -/
def refusal? {α : Type} (env : Environment) (name : String) (taken? : Option String → Option α) :
    Option Warning :=
  (env name).bind fun v => if (taken? (some v)).isNone then some (.invalidOverride name v) else none

theorem refusal?_eq_some {α : Type} {env : Environment} {name : String}
    {taken? : Option String → Option α} {w : Warning} :
    env.refusal? name taken? = some w ↔
      ∃ v, env name = some v ∧ taken? (some v) = none ∧ w = .invalidOverride name v := by
  simp only [refusal?, Option.bind_eq_some_iff, Option.ite_none_right_eq_some, Option.isNone_iff_eq_none,
    Option.some_inj, @eq_comm _ w]

/-- What replaces a setting is what `parsed` reads, although each trims and parses by
itself. -/
theorem override_eq {α : Type} (env : Environment) (name : String) (parse? : String → Option α)
    (present : α) :
    env.override name parse? present = ((parsed parse? (env name)).getD present,
      (env.refusal? name (parsed parse?)).toList) := by
  rw [override, refusal?]
  cases env name with
  | none => rfl
  | some v =>
    rw [Option.bind_some, parsed_some]
    dsimp only
    cases parse? (Text.trim v) <;> rfl

end Environment

namespace Settings

/-- The settings, each of which has a variable. -/
inductive Item where
  | storePath
  | capacity
  | policy
  | timeout
  | redeliverAfter
  | pushTopic
  deriving DecidableEq, Repr

namespace Item

def all : List Item := [storePath, capacity, policy, timeout, redeliverAfter, pushTopic]

def Value : Item → Type
  | storePath => String
  | capacity => Nat
  | policy => Policy
  | timeout => Nat
  | redeliverAfter => Nat
  | pushTopic => String

def name : Item → String
  | storePath => Environment.storePath
  | capacity => Environment.capacity
  | policy => Environment.policy
  | timeout => Environment.timeout
  | redeliverAfter => Environment.redeliverAfter
  | pushTopic => Environment.pushTopic

def get : (x : Item) → Settings → x.Value
  | storePath, s => s.storePath
  | capacity, s => s.capacity
  | policy, s => s.policy
  | timeout, s => s.timeout
  | redeliverAfter, s => s.redeliverAfter
  | pushTopic, s => s.pushTopic

/-- What a setting takes from the value of its variable: a text takes it as it is; a number
or a policy takes what the value without the white space around it stands for. -/
def taken? : (x : Item) → Option String → Option x.Value
  | storePath, v => v
  | capacity, v => Environment.parsed (Text.unsigned? 64) v
  | policy, v => Environment.parsed Environment.policy? v
  | timeout, v => Environment.parsed (Text.unsigned? 64) v
  | redeliverAfter, v => Environment.parsed (Text.unsigned? 64) v
  | pushTopic, v => v

/-- A number of at most 64 bits in decimal, with white space around it. -/
def WritesNumber (v : String) (n : Nat) : Prop :=
  ∃ cs, Text.Pads v cs ∧ Text.Numeral cs n ∧ n < Nat.pow 2 64

/-- The name of a policy in letters of either case, with white space around it. -/
def WritesPolicy (v : String) (p : Policy) : Prop :=
  ∃ cs, Text.Pads v cs ∧ Policy.Spelled cs p

/-- The values of a variable that its setting takes, and what it takes. -/
def Writes : (x : Item) → String → x.Value → Prop
  | storePath, v, a => v = a
  | capacity, v, n => WritesNumber v n
  | policy, v, p => WritesPolicy v p
  | timeout, v, n => WritesNumber v n
  | redeliverAfter, v, n => WritesNumber v n
  | pushTopic, v, a => v = a

theorem mem_all (x : Item) : x ∈ all := by
  cases x <;> decide

theorem name_injective : Function.Injective name := fun x y same =>
  have distinct : (all.map name).Nodup := by decide
  List.inj_on_of_nodup_map distinct x.mem_all y.mem_all same

theorem settings_ext {s t : Settings} (h : ∀ x : Item, x.get s = x.get t) : s = t := by
  cases s
  cases t
  rw [Settings.mk.injEq]
  exact ⟨h storePath, h capacity, h policy, h timeout, h redeliverAfter, h pushTopic⟩

theorem parsed_unsigned?_eq_some (v : String) (n : Nat) :
    Environment.parsed (Text.unsigned? 64) (some v) = some n ↔ WritesNumber v n := by
  rw [Environment.parsed_some, WritesNumber]
  exact Text.read_trim (fun cs n => Text.Numeral cs n ∧ n < Nat.pow 2 64) (Text.unsigned?_eq_some 64)
    (fun _ _ h => h.1.solid) v n

theorem parsed_policy?_eq_some (v : String) (p : Policy) :
    Environment.parsed Environment.policy? (some v) = some p ↔ WritesPolicy v p := by
  rw [Environment.parsed_some, WritesPolicy]
  exact Text.read_trim Policy.Spelled Policy.policy?_eq_some (fun _ _ h => h.solid) v p

theorem taken?_eq_some : ∀ (x : Item) (v : String) (a : x.Value), x.taken? (some v) = some a ↔ x.Writes v a
  | storePath, _, _ => Option.some_inj
  | capacity, v, n => parsed_unsigned?_eq_some v n
  | policy, v, p => parsed_policy?_eq_some v p
  | timeout, v, n => parsed_unsigned?_eq_some v n
  | redeliverAfter, v, n => parsed_unsigned?_eq_some v n
  | pushTopic, _, _ => Option.some_inj

def refusal? (env : Environment) (x : Item) : Option Warning := env.refusal? x.name x.taken?

theorem refusal?_eq_none {env : Environment} {x : Item} (takes : ∀ v, x.taken? (some v) ≠ none) :
    x.refusal? env = none := by
  rw [Option.eq_none_iff_forall_ne_some]
  intro w refused
  obtain ⟨v, -, none, -⟩ := Environment.refusal?_eq_some.1 refused
  exact takes v none

end Item

/-- What the settings `s` are in an environment, and what is reported. -/
structure Overrides (s : Settings) (env : Environment) (t : Settings) (ws : List Warning) : Prop where
  /-- Each setting is what its variable has for it, or else what it was. -/
  value : ∀ x : Item, x.get t = (x.taken? (env x.name)).getD (x.get s)
  /-- Each variable whose value its setting does not take is reported with that value. -/
  warned : ∀ w, w ∈ ws ↔ ∃ (x : Item) (v : String), env x.name = some v ∧ x.taken? (some v) = none ∧
    w = .invalidOverride x.name v
  once : ws.Nodup

structure Valid (s : Settings) : Prop where
  path : ∃ c ∈ s.storePath.toList, Text.isBlank c = false
  room : 1 ≤ s.capacity

/-- The settings of an environment, with what is refused in the order in which the variables
are read. -/
theorem override_eq (s : Settings) (env : Environment) :
    s.override env =
      ({ storePath := (env Environment.storePath).getD s.storePath
         capacity := (Environment.parsed (Text.unsigned? 64) (env Environment.capacity)).getD s.capacity
         policy := (Environment.parsed Environment.policy? (env Environment.policy)).getD s.policy
         timeout := (Environment.parsed (Text.unsigned? 64) (env Environment.timeout)).getD s.timeout
         redeliverAfter := (Environment.parsed (Text.unsigned? 64)
           (env Environment.redeliverAfter)).getD s.redeliverAfter
         pushTopic := (env Environment.pushTopic).getD s.pushTopic },
        Item.all.filterMap (·.refusal? env)) := by
  have path : Item.storePath.refusal? env = none := Item.refusal?_eq_none nofun
  have topic : Item.pushTopic.refusal? env = none := Item.refusal?_eq_none nofun
  simp only [override, Environment.override_eq, List.filterMap_eq_flatMap_toList, Item.all,
    List.flatMap_cons, List.flatMap_nil, path, topic, Option.toList_none, List.nil_append,
    List.append_nil, List.append_assoc]
  rfl

theorem get_override (s : Settings) (env : Environment) (x : Item) :
    x.get (s.override env).1 = (x.taken? (env x.name)).getD (x.get s) := by
  rw [override_eq]
  cases x <;> rfl

theorem warnings_override (s : Settings) (env : Environment) :
    (s.override env).2 = Item.all.filterMap (·.refusal? env) := by
  rw [override_eq]

theorem overrides (s : Settings) (env : Environment) :
    Overrides s env (s.override env).1 (s.override env).2 := by
  constructor
  case value => exact get_override s env
  case warned =>
    intro w
    rw [warnings_override, List.mem_filterMap]
    simp only [Item.refusal?, Environment.refusal?_eq_some, Item.mem_all, true_and]
  case once =>
    rw [warnings_override]
    have distinct : Item.all.Nodup := by decide
    refine distinct.filterMap ?_
    intro x y w hx hy
    obtain ⟨v, -, -, rfl⟩ := Environment.refusal?_eq_some.1 hx
    obtain ⟨v', -, -, same⟩ := Environment.refusal?_eq_some.1 hy
    exact Item.name_injective (Warning.invalidOverride.inj same).1

/-- The settings of an environment take the same again. -/
theorem override_twice (s : Settings) (env : Environment) :
    (s.override env).1.override env = s.override env := by
  refine Prod.ext (Item.settings_ext fun x => ?_) ?_
  · rw [get_override, get_override]
    cases x.taken? (env x.name) <;> rfl
  · rw [warnings_override, warnings_override]

theorem validate_eq_ok (s : Settings) : s.validate = .ok () ↔ s.Valid := by
  have path : (∃ c ∈ s.storePath.toList, Text.isBlank c = false) ↔ Text.trim s.storePath ≠ "" := by
    rw [ne_eq, Text.trim_eq_empty]
    push Not
    simp only [ne_eq, Bool.not_eq_true]
  have valid : s.Valid ↔ Text.trim s.storePath ≠ "" ∧ 1 ≤ s.capacity :=
    ⟨fun h => ⟨path.1 h.path, h.room⟩, fun h => ⟨path.2 h.1, h.2⟩⟩
  rw [valid, validate]
  split
  · rename_i empty
    exact iff_of_false nofun fun h => h.1 empty
  · rename_i named
    split
    · rename_i zero
      exact iff_of_false nofun fun h => by omega
    · rename_i pos
      exact iff_of_true rfl ⟨named, Nat.pos_of_ne_zero pos⟩

theorem load_eq_ok (path : String) (source : Source) (env : Environment) (t : Settings)
    (ws : List Warning) :
    load path source env = (.ok t, ws) ↔
      ∃ s, ofSource path source = .ok s ∧ s.override env = (t, ws) ∧ t.Valid := by
  rw [load]
  cases ofSource path source with
  | error e => exact iff_of_false nofun nofun
  | ok s =>
    simp only [Except.ok.injEq, exists_eq_left', ← validate_eq_ok]
    generalize s.override env = made
    obtain ⟨t', ws'⟩ := made
    cases checked : t'.validate with
    | error e =>
      refine iff_of_false nofun ?_
      rintro ⟨same, valid⟩
      obtain ⟨rfl, -⟩ := Prod.mk.inj same
      rw [checked] at valid
      cases valid
    | ok _ =>
      constructor
      · intro loaded
        cases loaded
        exact ⟨rfl, checked⟩
      · rintro ⟨same, -⟩
        obtain ⟨rfl, rfl⟩ := Prod.mk.inj same
        rfl

/-- The environment goes before the source of the settings. Each number and the policy is
what its variable stands for without the white space around it, if that is one, and each text
is what its variable has; all others stay as they were, and each value that is refused is
reported once. A variable has no part in the settings of others, and taking the environment
again changes nothing. What is loaded is the settings of the source with those of the
environment, and it has a path that is not blank and room in its queues. -/
theorem environment_prevails (s : Settings) (env : Environment) :
    Overrides s env (s.override env).1 (s.override env).2 ∧
    (s.override env).1.override env = s.override env ∧
    (∀ x y : Item, y ≠ x → ∀ value, y.get (s.override (Function.update env x.name value)).1 =
      y.get (s.override env).1) ∧
    (∀ (x : Item) (v : String) (a : x.Value), x.taken? (some v) = some a ↔ x.Writes v a) ∧
    ∀ (path : String) (source : Source) (t : Settings) (ws : List Warning),
      load path source env = (.ok t, ws) ↔
        ∃ s, ofSource path source = .ok s ∧ s.override env = (t, ws) ∧ t.Valid := by
  refine ⟨overrides s env, override_twice s env, ?_, Item.taken?_eq_some, fun path source =>
    load_eq_ok path source env⟩
  intro x y other value
  rw [get_override, get_override, Function.update_of_ne (Item.name_injective.ne other)]

/-- A number with a sign and white space around it and a policy in capitals are taken, a
number with a minus is not; without a file, these settings are loaded. -/
theorem environment_prevails_mixed :
    let env : Environment := fun name => List.lookup name
      [(Environment.storePath, ":memory:"), (Environment.capacity, "\u00a0+0016 "),
        (Environment.policy, "REJECT"), (Environment.timeout, "-1")]
    let t : Settings := { storePath := ":memory:", capacity := 16, policy := .reject }
    load "fleet.toml" .missing env = (.ok t, [.invalidOverride Environment.timeout "-1"]) ∧
      t.override env = (t, [.invalidOverride Environment.timeout "-1"]) ∧
      (({} : Settings).override (Function.update env Environment.pushTopic (some "topic"))).1.capacity = 16 ∧
      ∃ cs, Text.Pads "\u00a0+0016 " cs ∧ Text.Numeral cs 16 := by
  intro env t
  obtain ⟨-, twice, others, taken, loads⟩ := environment_prevails {} env
  have made : ({} : Settings).override env = (t, [.invalidOverride Environment.timeout "-1"]) := by
    decide +kernel
  have number : Environment.parsed (Text.unsigned? 64) (some "\u00a0+0016 ") = some 16 := by
    decide +kernel
  rw [made] at twice others
  obtain ⟨cs, pads, numeral, -⟩ := (taken .capacity "\u00a0+0016 " (16 : Nat)).1 number
  refine ⟨?_, twice, others .pushTopic .capacity (by decide) (some "topic"), cs, pads, numeral⟩
  exact (loads "fleet.toml" .missing t _).2 ⟨{}, rfl, made, ⟨':', by decide, by decide⟩, by decide⟩

end Settings

end DeviceFleet
