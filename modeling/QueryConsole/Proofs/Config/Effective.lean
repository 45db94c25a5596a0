import Mathlib
import QueryConsole.Config.Load
import QueryConsole.Proofs.Config.Fields
import QueryConsole.Proofs.Except

/-!
# The settings in force

Settings come from three places: the environment outranks the document, and the document outranks
the defaults. Each setting is settled on its own. The environment only replaces addresses, which may
be anything, so whether there are settings at all is a matter of the document.

## Main definitions

- `Config.Field.override`: the value that the environment gives a setting
- `Config.Field.chosen`: the value of a setting, settled on its own
- `Config.FirstZero`: the first of some settings that is zero
- `Config.Outcome`: what becomes of a document in an environment

## Main results

- `Config.validate_eq_ok_iff`, `Config.validate_eq_error_iff`: what settings can work
- `Config.settle_eq`: the environment replaces settings that can work, and they still can
- `effective_settings`: each setting is settled on its own, or it is said why there are none
-/

namespace QueryConsole

open Toml (Value Entries Reordered)

namespace Config

/-- The value that the environment gives a setting. -/
def Field.override (env : Environment) : Field → Option String
  | .bind => env.bind
  | .queryUrl => env.daemonUrl
  | .proxyUrl => env.proxyUrl
  | _ => none

/-- The value of a setting: what the environment gives it, or else the document, or else the
default. -/
def Field.chosen (f : Field) (doc : Entries) (env : Environment) : Value :=
  ((f.override env).map .text).getD (f.value doc)

/-- The settings that must not be zero, in the order they are looked at. -/
def durations : List Field := [.requestTimeoutSecs, .stopTimeoutSecs, .liveIntervalMs]

/-- How a setting is called. -/
def Field.key (f : Field) : String := f.part ++ "." ++ f.name

/-- The first of some settings that is zero. -/
inductive FirstZero (value : Field → Value) : List Field → Field → Prop
  | here {f : Field} {rest : List Field} (h : value f = .integer 0) : FirstZero value (f :: rest) f
  | later {f g : Field} {rest : List Field} (h : value f ≠ .integer 0)
      (hrest : FirstZero value rest g) : FirstZero value (f :: rest) g

/-- What becomes of a document in an environment. -/
inductive Outcome (doc : Entries) (env : Environment) : Except Fault Config → Prop
  | malformed (unsound : ¬ Sound doc) : Outcome doc env (.error .malformed)
  | zero {f : Field} (sound : Sound doc)
      (h : FirstZero (fun f => f.chosen doc env) durations f) :
      Outcome doc env (.error (.zero f.key))
  | settled {c : Config} (sound : Sound doc)
      (positive : ∀ f ∈ durations, f.chosen doc env ≠ .integer 0)
      (h : ∀ f : Field, c.get f = f.chosen doc env) : Outcome doc env (.ok c)

variable {c c' : Config} {env env' : Environment} {doc doc' : Entries} {fault : Fault}

/-! ## The first setting that is zero -/

/-- A list of settings with their names and numbers. -/
def Entered (c : Config) : List Field → List (String × Nat) → Prop :=
  List.Forall₂ fun f e => e.1 = f.key ∧ c.get f = .integer e.2

/-- Looking for a zero finds the first setting that is zero, or there is none. -/
theorem Entered.find?_cases {fields : List Field} {entries : List (String × Nat)}
    (h : Entered c fields entries) :
    (∃ f, FirstZero c.get fields f ∧ entries.find? (·.2 == 0) = some (f.key, 0)) ∨
      (∀ f ∈ fields, c.get f ≠ .integer 0) ∧ entries.find? (·.2 == 0) = none := by
  induction h with
  | nil => simp
  | @cons f e _ _ hentry _ ih =>
    obtain ⟨key, n⟩ := e
    obtain ⟨rfl, hnumber⟩ := hentry
    by_cases hn : n = 0
    · subst hn
      exact .inl ⟨f, .here hnumber, rfl⟩
    · have hne : c.get f ≠ .integer 0 := by simpa [hnumber] using hn
      rw [List.find?_cons_of_neg (by simpa using hn)]
      exact ih.imp (fun ⟨g, hg, hfind⟩ => ⟨g, .later hne hg, hfind⟩)
        (fun ⟨hall, hfind⟩ => ⟨List.forall_mem_cons.2 ⟨hne, hall⟩, hfind⟩)

/-- Settings cannot work of which one is zero that must not be, and the first of these is named;
all others can. -/
theorem validate_cases (c : Config) :
    (∃ f, FirstZero c.get durations f ∧ c.validate = .error (.zero f.key)) ∨
      (∀ f ∈ durations, c.get f ≠ .integer 0) ∧ c.validate = .ok c := by
  have hentered : Entered c durations c.positive :=
    .cons ⟨rfl, rfl⟩ (.cons ⟨rfl, rfl⟩ (.cons ⟨rfl, rfl⟩ .nil))
  unfold validate
  obtain ⟨f, hf, hfind⟩ | ⟨hall, hfind⟩ := hentered.find?_cases
  · rw [hfind]
    exact .inl ⟨f, hf, rfl⟩
  · rw [hfind]
    exact .inr ⟨hall, rfl⟩

theorem FirstZero.congr {value value' : Field → Value} {fields : List Field} {f : Field}
    (h : ∀ f ∈ fields, value f = value' f) (hfirst : FirstZero value fields f) :
    FirstZero value' fields f := by
  induction hfirst with
  | here hzero => exact .here (h _ List.mem_cons_self ▸ hzero)
  | later hne _ ih =>
    refine .later (h _ List.mem_cons_self ▸ hne) (ih ?_)
    exact fun g hg => h g (List.mem_cons_of_mem _ hg)

theorem FirstZero.unique {value : Field → Value} {fields : List Field} {f g : Field}
    (hf : FirstZero value fields f) (hg : FirstZero value fields g) : f = g := by
  induction hf with
  | here hzero =>
    cases hg with
    | here => rfl
    | later hne => exact absurd hzero hne
  | later hne _ ih =>
    cases hg with
    | here hzero => exact absurd hzero hne
    | later _ hrest => exact ih hrest

theorem FirstZero.exists_mem {value : Field → Value} {fields : List Field} {f : Field}
    (h : FirstZero value fields f) : f ∈ fields ∧ value f = .integer 0 := by
  induction h with
  | here hzero => exact ⟨List.mem_cons_self, hzero⟩
  | later _ _ ih => exact ⟨List.mem_cons_of_mem _ ih.1, ih.2⟩

theorem validate_eq_ok_iff :
    c.validate = .ok c' ↔ c' = c ∧ ∀ f ∈ durations, c.get f ≠ .integer 0 := by
  obtain ⟨f, hf, hzero⟩ | ⟨hall, hok⟩ := validate_cases c
  · obtain ⟨hmem, hvalue⟩ := hf.exists_mem
    constructor
    · intro h
      rw [hzero] at h
      cases h
    · rintro ⟨-, hall⟩
      exact absurd hvalue (hall f hmem)
  · rw [hok, Except.ok.injEq, eq_comm]
    exact (and_iff_left hall).symm

theorem validate_eq_error_iff :
    c.validate = .error fault ↔ ∃ f, FirstZero c.get durations f ∧ fault = .zero f.key := by
  obtain ⟨f, hf, hzero⟩ | ⟨hall, hok⟩ := validate_cases c
  · rw [hzero, Except.error.injEq]
    constructor
    · rintro rfl
      exact ⟨f, hf, rfl⟩
    · rintro ⟨g, hg, rfl⟩
      rw [hf.unique hg]
  · constructor
    · intro h
      rw [hok] at h
      cases h
    · rintro ⟨f, hf, -⟩
      obtain ⟨hmem, hvalue⟩ := hf.exists_mem
      exact absurd hvalue (hall f hmem)

/-! ## What the environment replaces -/

/-- The environment replaces the settings that it gives a value, and no others. -/
theorem get_override (c : Config) (env : Environment) (f : Field) :
    (c.override env).get f = ((f.override env).map .text).getD (c.get f) := by
  obtain ⟨_, bind, daemonUrl, proxyUrl⟩ := env
  cases f with
  | bind => cases bind <;> rfl
  | queryUrl => cases daemonUrl <;> rfl
  | proxyUrl => cases proxyUrl <;> rfl
  | _ => rfl

/-- What the environment has replaced is what it would replace it with. -/
theorem override_override (c : Config) (env : Environment) :
    (c.override env).override env = c.override env := by
  obtain ⟨_, bind, daemonUrl, proxyUrl⟩ := env
  cases bind <;> cases daemonUrl <;> cases proxyUrl <;> rfl

/-- The environment gives no duration a value. -/
theorem override_eq_none {f : Field} (h : f ∈ durations) : f.override env = none := by
  simp only [durations, List.mem_cons, List.not_mem_nil, or_false] at h
  obtain rfl | rfl | rfl := h <;> rfl

theorem chosen_of_mem_durations {f : Field} (h : f ∈ durations) :
    f.chosen doc env = f.value doc := by
  rw [Field.chosen, override_eq_none h]
  rfl

/-- Settings that can work still can when the environment has replaced some. -/
theorem validate_override (h : c.validate = .ok c) :
    (c.override env).validate = .ok (c.override env) := by
  rw [validate_eq_ok_iff] at h ⊢
  refine ⟨rfl, fun f hf => ?_⟩
  rw [get_override, override_eq_none hf]
  exact h.2 f hf

/-- The environment replaces settings that can work, and makes nothing of a fault. -/
theorem settle_eq {base : Except Fault Config} (h : ∀ c, base = .ok c → c.validate = .ok c) :
    settle base env = base.map (·.override env) := by
  cases base with
  | error fault => rfl
  | ok c => exact validate_override (h c rfl)

theorem validate_of_ofText {text : String} (h : ofText text = .ok c) : c.validate = .ok c := by
  unfold ofText at h
  split at h
  · cases h
  · obtain ⟨rfl, _⟩ := validate_eq_ok_iff.1 h
    exact h

theorem effective_eq (text : String) (env : Environment) :
    effective (some text) env = (ofText text).map (·.override env) :=
  settle_eq fun _ h => validate_of_ofText h

/-! ## Outcomes -/

theorem get_injective (h : ∀ f, c.get f = c'.get f) : c = c' := by
  obtain ⟨⟨⟩, ⟨⟩, ⟨⟩⟩ := c
  obtain ⟨⟨⟩, ⟨⟩, ⟨⟩⟩ := c'
  simpa [Field.forall_iff, get, and_assoc, Int.natCast_inj] using h

theorem Outcome.unique {r r' : Except Fault Config} (h : Outcome doc env r)
    (h' : Outcome doc env r') : r = r' := by
  cases h with
  | malformed unsound =>
    cases h' with
    | malformed => rfl
    | zero sound => exact absurd sound unsound
    | settled sound => exact absurd sound unsound
  | zero sound hzero =>
    cases h' with
    | malformed unsound => exact absurd sound unsound
    | zero _ hzero' => rw [hzero.unique hzero']
    | settled _ positive =>
      obtain ⟨hmem, hvalue⟩ := hzero.exists_mem
      exact absurd hvalue (positive _ hmem)
  | settled sound positive hget =>
    cases h' with
    | malformed unsound => exact absurd sound unsound
    | zero _ hzero =>
      obtain ⟨hmem, hvalue⟩ := hzero.exists_mem
      exact absurd hvalue (positive _ hmem)
    | settled _ _ hget' => rw [get_injective fun f => (hget f).trans (hget' f).symm]

/-- What becomes of the text of a document. -/
theorem outcome_effective {text : String} (h : Toml.parse text = some doc) (env : Environment) :
    Outcome doc env (effective (some text) env) := by
  rw [effective_eq, ofText, h, Option.bind_some]
  by_cases sound : Sound doc
  · obtain ⟨c, hc⟩ := ofToml_sound_iff.2 sound
    have hget := (ofToml_eq_some_iff.1 hc).2
    rw [hc]
    obtain ⟨f, hf, hzero⟩ | ⟨hall, hok⟩ := validate_cases c
    · show Outcome doc env (c.validate.map _)
      rw [hzero]
      refine .zero sound (hf.congr ?_)
      intro g hg
      rw [chosen_of_mem_durations hg, hget]
    · show Outcome doc env (c.validate.map _)
      rw [hok]
      refine .settled sound ?_ ?_
      · intro f hf
        rw [chosen_of_mem_durations hf, ← hget]
        exact hall f hf
      · intro f
        rw [get_override, hget]
        rfl
  · have hnone : ofToml doc = none :=
      Option.eq_none_iff_forall_not_mem.2 fun c hc => sound (ofToml_sound_iff.1 ⟨c, hc⟩)
    rw [hnone]
    exact .malformed sound

end Config

/-- Each setting has the value that the environment gives it, or else the document, or else the
default, unless a section or a setting of the document has the wrong kind, or a duration is zero.
The environment neither brings about a fault nor mends one, and the order of keys does not
matter. -/
theorem effective_settings {text : String} {doc : Entries} (h : Toml.parse text = some doc) :
    (∀ env result,
      Config.effective (some text) env = result ↔ Config.Outcome doc env result) ∧
    (∀ env env' fault, Config.effective (some text) env = .error fault ↔
      Config.effective (some text) env' = .error fault) ∧
    ∀ text' doc', Toml.parse text' = some doc' → Reordered (.table doc) (.table doc') →
      ∀ env, Config.effective (some text') env = Config.effective (some text) env := by
  refine ⟨?_, ?_, ?_⟩
  · intro env result
    have houtcome := Config.outcome_effective h env
    constructor
    · rintro rfl
      exact houtcome
    · exact houtcome.unique
  · intro env env' fault
    rw [Config.effective_eq, Config.effective_eq]
    cases Config.ofText text <;> simp [Except.map]
  · intro text' doc' h' hreordered env
    have hdecoded := Config.ofToml_reordered (Toml.proper_of_parse h) hreordered
    rw [Config.effective_eq, Config.effective_eq, Config.ofText, Config.ofText, h, h',
      Option.bind_some, Option.bind_some, hdecoded]

/-- The environment outranks the address of a document, whose other settings stay, in whatever
order they come. -/
theorem effective_settings_address :
    Toml.parse "[server]\nbind = 'h:1'\nstatic_dir = 'web'\n[daemon]\nautostart = false" =
      some [("server", .table [("bind", .text "h:1"), ("static_dir", .text "web")]),
        ("daemon", .table [("autostart", .boolean false)])] ∧
    Config.Outcome
      [("server", .table [("bind", .text "h:1"), ("static_dir", .text "web")]),
        ("daemon", .table [("autostart", .boolean false)])]
      { bind := some "h:2" }
      (.ok { server := { bind := "h:2", staticDir := "web" }, daemon := { autostart := false } }) ∧
    Config.effective
        (some "[daemon]\nautostart = false\n[server]\nstatic_dir = 'web'\nbind = 'h:1'")
        { bind := some "h:2" } =
      .ok { server := { bind := "h:2", staticDir := "web" },
            daemon := { autostart := false } } := by
  have hparse : Toml.parse
      "[server]\nbind = 'h:1'\nstatic_dir = 'web'\n[daemon]\nautostart = false" =
        some [("server", .table [("bind", .text "h:1"), ("static_dir", .text "web")]),
          ("daemon", .table [("autostart", .boolean false)])] := by cbv
  have hparse' : Toml.parse
      "[daemon]\nautostart = false\n[server]\nstatic_dir = 'web'\nbind = 'h:1'" =
        some [("daemon", .table [("autostart", .boolean false)]),
          ("server", .table [("static_dir", .text "web"), ("bind", .text "h:1")])] := by cbv
  obtain ⟨hresult, _, horder⟩ := effective_settings hparse
  have heffective := (hresult { bind := some "h:2" } (.ok
    { server := { bind := "h:2", staticDir := "web" }, daemon := { autostart := false } })).1
      (by cbv)
  refine ⟨hparse, heffective, ?_⟩
  rw [horder _ _ hparse']
  · exact (hresult _ _).2 heffective
  · exact .trans (.keys (.swap _ _ _)) (.entry [_] [] "server" (.keys (.swap _ _ _)))

/-- A moment is no table and no list, and is still taken for a section. -/
theorem moment_taken_for_section :
    Toml.parse "server = 1979-05-27" = some [("server", .moment)] ∧
    Config.effective (some "server = 1979-05-27") {} = .ok {} := by
  constructor <;> cbv

end QueryConsole
