import QueryConsole.Presentation
import QueryConsole.Proofs.Reply.Table

/-!
# The words of a failure

A response that reports a failure may bring data too, and the data is not shown. Whether the data
decodes still matters: a response that decodes is worded by its error before its message, one that
does not by its message before its error, and each of the two has its own text for want of both.
So two responses with the same report are worded alike when both decode or neither does, and also
when the report gives one text only, under whichever name. In every other case they are not.

## Main definitions

- `Fields.SameReport`: responses that give the same status, message and error
- `Fields.SaysOneThing`: the message and the error are one text, or only one of them is a text
- `Fields.Worded`: the text of a failure

## Main results

- `Fields.SameReport.worded_iff`: when two responses with the same report are worded alike
- `Reply.discriminate_of_worded`: an object that reports a failure is shown with these words
- `error_text_unless_data_garbled`: both together
-/

namespace QueryConsole

namespace Fields

variable {f f' : Fields} {text text' : String}

/-- Responses that give the same status, message and error. Null stands for an absent field, and
of the other members nothing is asked. -/
structure SameReport (f f' : Fields) : Prop where
  status : f.status = f'.status
  message : f.message = f'.message
  error : f.error = f'.error

/-- There is one text that the response gives as its message or its error. -/
def SaysOneThing (f : Fields) : Prop :=
  ∃! text, f.error = some (.text text) ∨ f.message = some (.text text)

/-- The text of a failure. -/
inductive Worded (f : Fields) : String → Prop
  | decoded (decodable : f.Decodable) :
      Worded f ((f.error.bind Json.text? <|> f.message.bind Json.text?).getD Reply.unexplained)
  | undecoded (undecodable : ¬ f.Decodable) :
      Worded f ((f.message.bind Json.text? <|> f.error.bind Json.text?).getD Reply.unrecognised)

theorem worded_total (f : Fields) : ∃ text, f.Worded text := by
  by_cases decodable : f.Decodable
  · exact ⟨_, .decoded decodable⟩
  · exact ⟨_, .undecoded decodable⟩

theorem Worded.unique (h : f.Worded text) (h' : f.Worded text') : text = text' := by
  cases h with
  | decoded decodable =>
    cases h' with
    | decoded => rfl
    | undecoded undecodable => exact absurd decodable undecodable
  | undecoded undecodable =>
    cases h' with
    | decoded decodable => exact absurd decodable undecodable
    | undecoded => rfl

/-! ## Reports -/

theorem SameReport.symm (h : f.SameReport f') : f'.SameReport f :=
  ⟨h.status.symm, h.message.symm, h.error.symm⟩

theorem SameReport.failed (h : f.SameReport f') (failed : f.Failed) : f'.Failed := by
  rw [Failed, ← h.error, ← h.status]
  exact failed

/-- A field is read as a text exactly when it holds that text. -/
theorem bind_text?_eq_some_iff {field : Option Json} :
    field.bind Json.text? = some text ↔ field = some (.text text) := by
  cases field with
  | none => simp
  | some v => cases v <;> simp [Json.text?]

/-- Reading the two texts in one order or the other gives the same only if they are one. -/
theorem saysOneThing_iff : f.SaysOneThing ↔
    (f.error.bind Json.text? <|> f.message.bind Json.text?).getD Reply.unexplained =
      (f.message.bind Json.text? <|> f.error.bind Json.text?).getD Reply.unrecognised := by
  have hwant : Reply.unexplained ≠ Reply.unrecognised := by decide
  simp only [SaysOneThing, ExistsUnique, ← bind_text?_eq_some_iff]
  generalize f.error.bind Json.text? = error, f.message.bind Json.text? = message
  cases error with
  | none =>
    cases message with
    | none => simp [hwant]
    | some message => simp
  | some error =>
    cases message with
    | none => simp
    | some message =>
      show _ ↔ error = message
      simp only [Option.some.injEq]
      constructor
      · rintro ⟨text, _, hall⟩
        rw [hall error (.inl rfl), hall message (.inr rfl)]
      · rintro rfl
        exact ⟨error, .inl rfl, fun _ h => (h.elim id id).symm⟩

/-- A response that decodes and one that does not are worded alike if their report gives one text
only. -/
theorem SameReport.worded_iff_of_decoded (same : f.SameReport f') (decodable : f.Decodable)
    (undecodable : ¬ f'.Decodable) (h : f.Worded text) (h' : f'.Worded text') :
    text = text' ↔ f.SaysOneThing := by
  rw [h.unique (.decoded decodable), h'.unique (.undecoded undecodable), ← same.message,
    ← same.error, saysOneThing_iff]

theorem SameReport.saysOneThing_iff (same : f.SameReport f') :
    f.SaysOneThing ↔ f'.SaysOneThing := by
  rw [SaysOneThing, SaysOneThing, same.message, same.error]

/-- Two responses with the same report are worded alike exactly when both decode or neither does,
or when the report gives one text only. -/
theorem SameReport.worded_iff (same : f.SameReport f') (h : f.Worded text)
    (h' : f'.Worded text') :
    text = text' ↔ (f.Decodable ↔ f'.Decodable) ∨ f.SaysOneThing := by
  by_cases decodable : f.Decodable <;> by_cases decodable' : f'.Decodable
  · have heq : text = text' := by
      rw [h.unique (.decoded decodable), h'.unique (.decoded decodable'), same.message, same.error]
    simp [heq, decodable, decodable']
  · rw [same.worded_iff_of_decoded decodable decodable' h h']
    simp [decodable, decodable']
  · rw [eq_comm, same.symm.worded_iff_of_decoded decodable' decodable h' h, same.saysOneThing_iff]
    simp [decodable, decodable']
  · have heq : text = text' := by
      rw [h.unique (.undecoded decodable), h'.unique (.undecoded decodable'), same.message,
        same.error]
    simp [heq, decodable, decodable']

end Fields

/-! ## What is shown -/

/-- An object that reports a failure is sorted into a failure with these words. -/
theorem Reply.discriminate_of_worded {members : List (String × Json)} {text : String}
    (proper : (Json.object members).Proper) (failed : (Fields.ofObject members).Failed)
    (h : (Fields.ofObject members).Worded text) :
    discriminate (.object members) = .failure text := by
  rw [discriminate_eq_iff proper]
  cases h with
  | decoded decodable => exact .object decodable (.failure failed)
  | undecoded undecodable => exact .otherObject undecodable

/-- Every renderer shows a failure as an error with the same words. -/
theorem Renderer.render_failure (renderer : Renderer) (text : String) :
    renderer.render (.failure text) = some (.error text) := by
  cases renderer <;> rfl

/-- Two objects that give the same status, message and error, and report a failure, are failures
whatever else they hold, and every renderer shows them as errors with the words of the failure.
The words are the same exactly when both objects decode or neither does, or when one text only is
given as message or error. -/
theorem error_text_unless_data_garbled {members members' : List (String × Json)}
    (proper : (Json.object members).Proper) (proper' : (Json.object members').Proper)
    (same : (Fields.ofObject members).SameReport (Fields.ofObject members'))
    (failed : (Fields.ofObject members).Failed) :
    ∃ text text', (Fields.ofObject members).Worded text ∧ (Fields.ofObject members').Worded text' ∧
      Reply.discriminate (.object members) = .failure text ∧
      Reply.discriminate (.object members') = .failure text' ∧
      (∀ renderer : Renderer,
        renderer.render (Reply.discriminate (.object members)) = some (.error text) ∧
        renderer.render (Reply.discriminate (.object members')) = some (.error text')) ∧
      (text = text' ↔
        ((Fields.ofObject members).Decodable ↔ (Fields.ofObject members').Decodable) ∨
          (Fields.ofObject members).SaysOneThing) := by
  obtain ⟨text, htext⟩ := (Fields.ofObject members).worded_total
  obtain ⟨text', htext'⟩ := (Fields.ofObject members').worded_total
  have hreply := Reply.discriminate_of_worded proper failed htext
  have hreply' := Reply.discriminate_of_worded proper' (same.failed failed) htext'
  refine ⟨text, text', htext, htext', hreply, hreply', ?_, same.worded_iff htext htext'⟩
  intro renderer
  rw [hreply, hreply']
  exact ⟨renderer.render_failure text, renderer.render_failure text'⟩

/-- Databases that are no listing take nothing from a report of one text. -/
theorem error_text_unless_data_garbled_listing :
    (Json.object [("error", .text "bad syntax")]).Proper ∧
    (Json.object [("databases", .integer 3), ("error", .text "bad syntax")]).Proper ∧
    (Fields.ofObject [("error", .text "bad syntax")]).SameReport
      (Fields.ofObject [("databases", .integer 3), ("error", .text "bad syntax")]) ∧
    (Fields.ofObject [("error", .text "bad syntax")]).Failed ∧
    Reply.discriminate (.object [("databases", .integer 3), ("error", .text "bad syntax")]) =
      .failure "bad syntax" := by
  have proper : (Json.object [("error", .text "bad syntax")]).Proper := by
    refine .object (by decide) ?_
    intro m hm
    obtain rfl := List.mem_singleton.1 hm
    exact .text _
  have proper' :
      (Json.object [("databases", .integer 3), ("error", .text "bad syntax")]).Proper := by
    refine .object (by decide) ?_
    intro m hm
    obtain rfl | rfl : m = _ ∨ m = _ := by simpa using hm
    · exact .integer _
    · exact .text _
  have same : (Fields.ofObject [("error", .text "bad syntax")]).SameReport
      (Fields.ofObject [("databases", .integer 3), ("error", .text "bad syntax")]) :=
    ⟨rfl, rfl, rfl⟩
  have failed : (Fields.ofObject [("error", .text "bad syntax")]).Failed :=
    .inl ⟨"bad syntax", rfl⟩
  have one : (Fields.ofObject [("error", .text "bad syntax")]).SaysOneThing :=
    Fields.saysOneThing_iff.2 rfl
  refine ⟨proper, proper', same, failed, ?_⟩
  obtain ⟨text, text', _, _, hreply, hreply', _, hiff⟩ :=
    error_text_unless_data_garbled proper proper' same failed
  have htext : text = "bad syntax" := (Reply.failure.inj hreply).symm
  rw [hreply', ← hiff.2 (.inr one), htext]

/-- Databases that are no listing turn an error into the message beside it. -/
theorem error_text_turned_by_data :
    (Fields.ofObject [("error", .text "bad syntax"), ("message", .text "ignored")]).SameReport
      (Fields.ofObject [("error", .text "bad syntax"), ("message", .text "ignored"),
        ("databases", .integer 3)]) ∧
    (Fields.ofObject [("error", .text "bad syntax"), ("message", .text "ignored")]).Failed ∧
    Reply.discriminate (.object [("error", .text "bad syntax"), ("message", .text "ignored")]) =
      .failure "bad syntax" ∧
    Reply.discriminate (.object [("error", .text "bad syntax"), ("message", .text "ignored"),
      ("databases", .integer 3)]) = .failure "ignored" :=
  ⟨⟨rfl, rfl, rfl⟩, .inl ⟨"bad syntax", rfl⟩, rfl, rfl⟩

end QueryConsole
