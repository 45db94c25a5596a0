import QueryConsole.Config.Decode
import QueryConsole.Proofs.Toml.Order

/-!
# The settings of a document, one by one

The settings are ten fields. Each has a place in a document, under its name or at its position in a
section, and a value for when nothing is there. What a document is decoded to can be said for every
field on its own.

## Main definitions

- `Config.Field`: a setting
- `Config.get`: the value of a setting
- `Config.Field.given`: the value that a document gives a setting
- `Config.Sound`: every section and every given setting has the right kind

## Main results

- `Config.ofToml_eq_some_iff`: settings are decoded that have the given values, or else the defaults
- `Config.ofToml_sound_iff`: settings are decoded exactly from sound documents
- `Config.ofToml_reordered`: the order of keys does not matter
-/

namespace QueryConsole

open Toml (Value Entries Reordered)

/-- What a section can be: a table, a list of its fields in order, or a moment, in which no field
is given. -/
inductive Toml.Value.IsSection : Value → Prop
  | table (entries : Entries) : IsSection (.table entries)
  | list (items : List Value) : IsSection (.list items)
  | moment : IsSection .moment

/-- What a section holds for a field. -/
def Toml.Value.held (v : Value) (position : Nat) (name : String) : Option Value :=
  match v with
  | .table entries => entries.lookup name
  | .list items => items[position]?
  | _ => none

namespace Config

/-- A setting. -/
inductive Field
  | bind
  | staticDir
  | binary
  | workingDir
  | queryUrl
  | requestTimeoutSecs
  | autostart
  | stopTimeoutSecs
  | proxyUrl
  | liveIntervalMs

namespace Field

/-- The section of a setting. -/
def part : Field → String
  | .bind | .staticDir => "server"
  | .binary | .workingDir | .queryUrl | .requestTimeoutSecs | .autostart | .stopTimeoutSecs =>
    "daemon"
  | .proxyUrl | .liveIntervalMs => "console"

/-- The name of a setting in a section that is a table. -/
def name : Field → String
  | .bind => "bind"
  | .staticDir => "static_dir"
  | .binary => "binary"
  | .workingDir => "working_dir"
  | .queryUrl => "query_url"
  | .requestTimeoutSecs => "request_timeout_secs"
  | .autostart => "autostart"
  | .stopTimeoutSecs => "stop_timeout_secs"
  | .proxyUrl => "proxy_url"
  | .liveIntervalMs => "live_interval_ms"

/-- The position of a setting in a section that is a list. -/
def position : Field → Nat
  | .bind | .binary | .proxyUrl => 0
  | .staticDir | .workingDir | .liveIntervalMs => 1
  | .queryUrl => 2
  | .requestTimeoutSecs => 3
  | .autostart => 4
  | .stopTimeoutSecs => 5

/-- The value of a setting that is given nowhere. -/
def standard : Field → Value
  | .bind => .text "0.0.0.0:3000"
  | .staticDir => .text "static"
  | .binary => .text "./daemon"
  | .workingDir => .text "../../build/bin"
  | .queryUrl => .text "http://localhost:8080/query"
  | .requestTimeoutSecs => .integer 10
  | .autostart => .boolean true
  | .stopTimeoutSecs => .integer 5
  | .proxyUrl => .text "http://localhost:3000/query"
  | .liveIntervalMs => .integer 2000

/-- The values that a setting takes: those of the kind of its default, and no number below zero. -/
def Takes (f : Field) (v : Value) : Prop :=
  match f.standard with
  | .text _ => ∃ s, v = .text s
  | .integer _ => ∃ n : Nat, v = .integer n
  | .boolean _ => ∃ b, v = .boolean b
  | _ => False

/-- The value that a document gives a setting. -/
def given (f : Field) (doc : Entries) : Option Value :=
  (doc.lookup f.part).bind fun section' => section'.held f.position f.name

/-- The value of a setting in a document, which is the default if none is given. -/
def value (f : Field) (doc : Entries) : Value := (f.given doc).getD f.standard

end Field

/-- The value of a setting. -/
def get (c : Config) : Field → Value
  | .bind => .text c.server.bind
  | .staticDir => .text c.server.staticDir
  | .binary => .text c.daemon.binary
  | .workingDir => .text c.daemon.workingDir
  | .queryUrl => .text c.daemon.queryUrl
  | .requestTimeoutSecs => .integer c.daemon.requestTimeoutSecs
  | .autostart => .boolean c.daemon.autostart
  | .stopTimeoutSecs => .integer c.daemon.stopTimeoutSecs
  | .proxyUrl => .text c.console.proxyUrl
  | .liveIntervalMs => .integer c.console.liveIntervalMs

/-- Every section of a document and every setting that it gives has the right kind. -/
structure Sound (doc : Entries) : Prop where
  sections : ∀ f : Field, ∀ v, doc.lookup f.part = some v → v.IsSection
  fields : ∀ f : Field, ∀ v, f.given doc = some v → f.Takes v

/-! ## Single fields -/

section Setting

variable {α : Type} [Setting α] {write : α → Value} {part : Value} {position : Nat} {name : String}

theorem field_eq_some_iff {x : Option Value} :
    part.field position name = some x ↔ part.IsSection ∧ part.held position name = x := by
  constructor
  · intro h
    cases part with
    | table entries => exact ⟨.table entries, Option.some.inj h⟩
    | list items => exact ⟨.list items, Option.some.inj h⟩
    | moment => exact ⟨.moment, Option.some.inj h⟩
    | _ => cases h
  · rintro ⟨hpart, rfl⟩
    cases hpart <;> rfl

/-- The values that are read as settings are those that settings are written as. -/
def Reads (write : α → Value) : Prop :=
  ∀ v x, Setting.ofValue v = some x ↔ v = write x

/-- A setting is read that has the value of its field, or else the default. -/
theorem setting_eq_some_iff (h : Reads write) {default x : α} :
    setting part position name default = some x ↔
      part.IsSection ∧ write x = (part.held position name).getD (write default) := by
  have hinjective : ∀ {x y : α}, write x = write y → x = y := by
    intro x y hxy
    have hx : Setting.ofValue (write x) = some x := (h _ _).2 rfl
    exact Option.some.inj (hx.symm.trans ((h _ _).2 hxy))
  unfold setting
  rw [Option.bind_eq_bind, Option.bind_eq_some_iff]
  simp only [field_eq_some_iff]
  constructor
  · rintro ⟨_, ⟨hpart, rfl⟩, hread⟩
    refine ⟨hpart, ?_⟩
    cases hheld : part.held position name with
    | none =>
      rw [hheld] at hread
      rw [Option.some.inj hread, Option.getD_none]
    | some v =>
      rw [hheld] at hread
      rw [← (h _ _).1 hread, Option.getD_some]
  · rintro ⟨hpart, hx⟩
    refine ⟨_, ⟨hpart, rfl⟩, ?_⟩
    cases hheld : part.held position name with
    | none =>
      rw [hheld] at hx
      exact congrArg some (hinjective hx).symm
    | some v =>
      rw [hheld] at hx
      exact (h _ _).2 hx.symm

end Setting

theorem reads_text : Reads Value.text := by
  intro v s
  cases v <;> simp [Setting.ofValue]

theorem reads_boolean : Reads Value.boolean := by
  intro v b
  cases v <;> simp [Setting.ofValue]

theorem reads_integer : Reads fun n : Nat => Value.integer n := by
  intro v n
  cases v with
  | integer m =>
    rw [Value.integer.injEq]
    exact Int.mem_toNat?
  | _ => simp [Setting.ofValue]

/-! ## Sections -/

section Sections

variable {part : Value}

theorem server_eq_some_iff {s : ServerConfig} :
    ServerConfig.ofToml part = some s ↔ part.IsSection ∧
      .text s.bind = (part.held 0 "bind").getD (.text "0.0.0.0:3000") ∧
      .text s.staticDir = (part.held 1 "static_dir").getD (.text "static") := by
  obtain ⟨bind, staticDir⟩ := s
  simp only [ServerConfig.ofToml, Option.bind_eq_bind, Option.bind_eq_some_iff,
    setting_eq_some_iff reads_text, Option.pure_def, Option.some.injEq, ServerConfig.mk.injEq]
  constructor
  · rintro ⟨_, ⟨hpart, hbind⟩, _, ⟨_, hstatic⟩, rfl, rfl⟩
    exact ⟨hpart, hbind, hstatic⟩
  · rintro ⟨hpart, hbind, hstatic⟩
    exact ⟨_, ⟨hpart, hbind⟩, _, ⟨hpart, hstatic⟩, rfl, rfl⟩

theorem console_eq_some_iff {c : ConsoleConfig} :
    ConsoleConfig.ofToml part = some c ↔ part.IsSection ∧
      .text c.proxyUrl = (part.held 0 "proxy_url").getD (.text "http://localhost:3000/query") ∧
      .integer c.liveIntervalMs = (part.held 1 "live_interval_ms").getD (.integer 2000) := by
  obtain ⟨proxyUrl, liveIntervalMs⟩ := c
  simp only [ConsoleConfig.ofToml, Option.bind_eq_bind, Option.bind_eq_some_iff,
    setting_eq_some_iff reads_text, setting_eq_some_iff reads_integer, Option.pure_def,
    Option.some.injEq, ConsoleConfig.mk.injEq]
  constructor
  · rintro ⟨_, ⟨hpart, hproxy⟩, _, ⟨_, hlive⟩, rfl, rfl⟩
    exact ⟨hpart, hproxy, hlive⟩
  · rintro ⟨hpart, hproxy, hlive⟩
    exact ⟨_, ⟨hpart, hproxy⟩, _, ⟨hpart, hlive⟩, rfl, rfl⟩

theorem daemon_eq_some_iff {d : DaemonConfig} :
    DaemonConfig.ofToml part = some d ↔ part.IsSection ∧
      .text d.binary = (part.held 0 "binary").getD (.text "./daemon") ∧
      .text d.workingDir = (part.held 1 "working_dir").getD (.text "../../build/bin") ∧
      .text d.queryUrl = (part.held 2 "query_url").getD (.text "http://localhost:8080/query") ∧
      .integer d.requestTimeoutSecs =
        (part.held 3 "request_timeout_secs").getD (.integer 10) ∧
      .boolean d.autostart = (part.held 4 "autostart").getD (.boolean true) ∧
      .integer d.stopTimeoutSecs = (part.held 5 "stop_timeout_secs").getD (.integer 5) := by
  obtain ⟨binary, workingDir, queryUrl, requestTimeoutSecs, autostart, stopTimeoutSecs⟩ := d
  simp only [DaemonConfig.ofToml, Option.bind_eq_bind, Option.bind_eq_some_iff,
    setting_eq_some_iff reads_text, setting_eq_some_iff reads_integer,
    setting_eq_some_iff reads_boolean, Option.pure_def, Option.some.injEq, DaemonConfig.mk.injEq]
  constructor
  · rintro ⟨_, ⟨hpart, hbinary⟩, _, ⟨_, hdir⟩, _, ⟨_, hurl⟩, _, ⟨_, hrequest⟩, _, ⟨_, hauto⟩, _,
      ⟨_, hstop⟩, rfl, rfl, rfl, rfl, rfl, rfl⟩
    exact ⟨hpart, hbinary, hdir, hurl, hrequest, hauto, hstop⟩
  · rintro ⟨hpart, hbinary, hdir, hurl, hrequest, hauto, hstop⟩
    exact ⟨_, ⟨hpart, hbinary⟩, _, ⟨hpart, hdir⟩, _, ⟨hpart, hurl⟩, _, ⟨hpart, hrequest⟩, _,
      ⟨hpart, hauto⟩, _, ⟨hpart, hstop⟩, rfl, rfl, rfl, rfl, rfl, rfl⟩

end Sections

/-! ## Documents -/

variable {doc doc' : Entries} {c : Config}

/-- A missing section is one in which no field is given. -/
theorem held_sectionOf (f : Field) :
    (sectionOf doc f.part).held f.position f.name = f.given doc := by
  rw [Field.given, sectionOf]
  cases doc.lookup f.part <;> rfl

theorem isSection_sectionOf {part : String} :
    (sectionOf doc part).IsSection ↔ ∀ v, doc.lookup part = some v → v.IsSection := by
  rw [sectionOf]
  cases doc.lookup part with
  | none => simp [Value.IsSection.table]
  | some v => simp

/-- A property of all fields, field by field. -/
theorem Field.forall_iff {P : Field → Prop} :
    (∀ f, P f) ↔ (P .bind ∧ P .staticDir) ∧
      (P .binary ∧ P .workingDir ∧ P .queryUrl ∧ P .requestTimeoutSecs ∧ P .autostart ∧
        P .stopTimeoutSecs) ∧ P .proxyUrl ∧ P .liveIntervalMs := by
  constructor
  · intro h
    exact ⟨⟨h _, h _⟩, ⟨h _, h _, h _, h _, h _, h _⟩, h _, h _⟩
  · rintro ⟨⟨h0, h1⟩, ⟨h2, h3, h4, h5, h6, h7⟩, h8, h9⟩ (_ | _ | _ | _ | _ | _ | _ | _ | _ | _)
    all_goals assumption

/-- Settings are decoded exactly when all sections are sections, and have the values of the
document. -/
theorem ofToml_eq_some_iff : ofToml doc = some c ↔
    (∀ f : Field, ∀ v, doc.lookup f.part = some v → v.IsSection) ∧ ∀ f, c.get f = f.value doc := by
  have hvalue : ∀ f : Field, c.get f = f.value doc ↔
      c.get f = ((sectionOf doc f.part).held f.position f.name).getD f.standard := by
    intro f
    rw [held_sectionOf, Field.value]
  simp only [hvalue, ← isSection_sectionOf]
  rw [Field.forall_iff, Field.forall_iff]
  obtain ⟨server, daemon, console⟩ := c
  simp only [ofToml, Option.bind_eq_bind, Option.bind_eq_some_iff, server_eq_some_iff,
    daemon_eq_some_iff, console_eq_some_iff, Option.pure_def, Option.some.injEq, Config.mk.injEq]
  constructor
  · rintro ⟨_, ⟨hs, hserver⟩, _, ⟨hd, hdaemon⟩, _, ⟨hc, hconsole⟩, rfl, rfl, rfl⟩
    exact ⟨⟨⟨hs, hs⟩, ⟨hd, hd, hd, hd, hd, hd⟩, hc, hc⟩, hserver, hdaemon, hconsole⟩
  · rintro ⟨⟨⟨hs, _⟩, ⟨hd, _⟩, hc, _⟩, hserver, hdaemon, hconsole⟩
    exact ⟨_, ⟨hs, hserver⟩, _, ⟨hd, hdaemon⟩, _, ⟨hc, hconsole⟩, rfl, rfl, rfl⟩

/-- A setting has a value that it takes. -/
theorem takes_get (c : Config) (f : Field) : f.Takes (c.get f) := by
  cases f <;> exact ⟨_, rfl⟩

theorem takes_standard (f : Field) : f.Takes f.standard := by
  cases f <;> exact ⟨_, rfl⟩

/-- There are settings with any values that they take. -/
theorem exists_get {x : Field → Value} (h : ∀ f : Field, f.Takes (x f)) :
    ∃ c : Config, ∀ f, c.get f = x f := by
  obtain ⟨⟨⟨bind, h0⟩, staticDir, h1⟩, ⟨⟨binary, h2⟩, ⟨workingDir, h3⟩, ⟨queryUrl, h4⟩,
    ⟨requestTimeoutSecs, h5⟩, ⟨autostart, h6⟩, stopTimeoutSecs, h7⟩, ⟨proxyUrl, h8⟩,
    liveIntervalMs, h9⟩ := Field.forall_iff.1 h
  refine ⟨⟨⟨bind, staticDir⟩, ⟨binary, workingDir, queryUrl, requestTimeoutSecs, autostart,
    stopTimeoutSecs⟩, ⟨proxyUrl, liveIntervalMs⟩⟩, Field.forall_iff.2 ?_⟩
  exact ⟨⟨h0.symm, h1.symm⟩, ⟨h2.symm, h3.symm, h4.symm, h5.symm, h6.symm, h7.symm⟩, h8.symm,
    h9.symm⟩

/-- Settings are decoded exactly from sound documents. -/
theorem ofToml_sound_iff : (∃ c, ofToml doc = some c) ↔ Sound doc := by
  simp only [ofToml_eq_some_iff]
  constructor
  · rintro ⟨c, hsections, hfields⟩
    refine ⟨hsections, ?_⟩
    intro f v hv
    have hget := hfields f
    rw [Field.value, hv, Option.getD_some] at hget
    exact hget ▸ takes_get c f
  · rintro ⟨hsections, hfields⟩
    have htakes : ∀ f : Field, f.Takes (f.value doc) := by
      intro f
      rw [Field.value]
      cases hgiven : f.given doc with
      | none => exact takes_standard f
      | some v => exact hfields f v hgiven
    obtain ⟨c, hc⟩ := exists_get htakes
    exact ⟨c, hsections, hc⟩

/-! ## The order of keys -/

/-- Each section is reordered on its own. -/
theorem rel_lookup (proper : (Value.table doc).Proper)
    (h : Reordered (.table doc) (.table doc')) (part : String) :
    Option.Rel (fun v v' => v.Proper ∧ Reordered v v') (doc.lookup part) (doc'.lookup part) := by
  cases (h.matches_of_proper proper).2 with
  | table hlookup =>
    have hrel := hlookup part
    cases hv : doc.lookup part with
    | none =>
      rw [hv] at hrel
      generalize doc'.lookup part = x at hrel
      cases hrel
      exact .none
    | some v =>
      rw [hv] at hrel
      generalize doc'.lookup part = x at hrel
      cases hrel with
      | some hreordered => exact .some ⟨proper.of_table _ (Toml.mem_of_lookup hv), hreordered⟩
  | other _ _ htable => exact absurd rfl (htable doc)

theorem isSection_iff_of_matches {v v' : Value} (h : Toml.Matches v v') :
    v.IsSection ↔ v'.IsSection := by
  cases h with
  | table => exact ⟨fun _ => .table _, fun _ => .table _⟩
  | list => exact ⟨fun _ => .list _, fun _ => .list _⟩
  | other => rfl

theorem rel_held {v v' : Value} (h : Toml.Matches v v') (position : Nat) (name : String) :
    Option.Rel Reordered (v.held position name) (v'.held position name) := by
  cases h with
  | table h => exact h name
  | list h => exact h position
  | other => exact Toml.rel_refl _

/-- A value of a setting holds no keys, so their order makes no difference to it. -/
theorem get_eq_iff_of_matches {v v' : Value} (h : Toml.Matches v v') (f : Field) :
    c.get f = v ↔ c.get f = v' := by
  cases h with
  | table => cases f <;> simp [get]
  | list => cases f <;> simp [get]
  | other => rfl

theorem get_eq_value_iff_of_reordered (proper : (Value.table doc).Proper)
    (h : Reordered (.table doc) (.table doc')) (f : Field) :
    c.get f = f.value doc ↔ c.get f = f.value doc' := by
  have hrel := rel_lookup proper h f.part
  unfold Field.value Field.given
  generalize doc.lookup f.part = x, doc'.lookup f.part = x' at hrel
  cases hrel with
  | none => rfl
  | @some v v' hv =>
    obtain ⟨proper, hreordered⟩ := hv
    have hheld := rel_held (hreordered.matches_of_proper proper).2 f.position f.name
    have hproper : ∀ w, v.held f.position f.name = some w → w.Proper := by
      intro w hw
      cases proper with
      | table distinct each => exact each _ (Toml.mem_of_lookup hw)
      | list each => exact each w (List.mem_of_getElem? hw)
      | _ => cases hw
    rw [Option.bind_some, Option.bind_some]
    generalize v.held f.position f.name = y, v'.held f.position f.name = y' at hheld hproper
    cases hheld with
    | none => rfl
    | some hw => exact get_eq_iff_of_matches (hw.matches_of_proper (hproper _ rfl)).2 f

/-- The order of keys, in the document and within its sections, does not matter to the settings
that are decoded. -/
theorem ofToml_reordered (proper : (Value.table doc).Proper)
    (h : Reordered (.table doc) (.table doc')) : ofToml doc' = ofToml doc := by
  ext c
  rw [ofToml_eq_some_iff, ofToml_eq_some_iff]
  apply and_congr
  · apply forall_congr'
    intro f
    have hrel := rel_lookup proper h f.part
    generalize doc.lookup f.part = x, doc'.lookup f.part = x' at hrel
    cases hrel with
    | none => simp
    | some hv => simpa using (isSection_iff_of_matches (hv.2.matches_of_proper hv.1).2).symm
  · exact forall_congr' fun f => (get_eq_value_iff_of_reordered proper h f).symm

end Config

end QueryConsole
