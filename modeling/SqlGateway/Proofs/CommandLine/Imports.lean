import SqlGateway.CommandLine.Run
import SqlGateway.Proofs.Import.Registry
import SqlGateway.Proofs.Query.Envelope

/-!
# What is printed for an import

An import that reaches its plugin is always printed, as an envelope of what the plugin answered.
Whoever reads the text finds an object with the members `error` and `response`, and `error` is
there exactly where the plugin failed (`sides_of_import`).

Of the two members one is there and the other is `null`, with one exception.  A plugin may
answer `null`, which is no different from no answer once it is printed: then both members are
`null` (`import_answering_null`).
-/

namespace SqlGateway.CommandLine

open Query.Envelope (written)

/-- One of two sides is there, and the other is `null`. -/
def OneSided (error response : Json) : Prop :=
  (error = .null ∧ response ≠ .null) ∨ (error ≠ .null ∧ response = .null)

/-- An import is handed to the plugin of a registered name. -/
theorem dispatch_of_mem_names (r : Import.Registry) {plugin : String}
    (registered : plugin ∈ r.names) (source destination : Json) :
    ∃ answer, r.dispatch plugin source destination = .ok answer := by
  obtain ⟨p, mem, rfl⟩ := List.mem_map.mp registered
  exact ⟨_, r.serves.hands p mem source destination⟩

/-- The text that is printed for an outcome is that of its envelope, and a line break. -/
theorem printing_value {α : Type} (write : α → Json) (o : Query.Outcome α)
    (arrived : Option Http.Request) :
    (Work.printing write o arrived).value = .ok
      { text := (written write o).pretty ++ "\n", success := !(Query.Envelope.mk o).isError,
        arrived } := by
  simp only [Work.printing, Work.trying, Query.Envelope.pretty_eq write o]
  rfl

theorem printing_id (o : Import.Outcome) :
    (Work.printing id o none).value = .ok
      { text := (written id o).pretty ++ "\n", success := !(Query.Envelope.mk o).isError } :=
  printing_value id o none

/-- The bytes of a text that is printed on its own lines. -/
theorem encode_printed (v : Json) : Utf8.encode (v.pretty ++ "\n") =
    Utf8.ofChars (Json.Layout.pretty.text 0 v) ++ Utf8.ofChars ['\n'] := by
  rw [Json.pretty, ← Json.Layout.text_pretty, ← Utf8.ofChars_append, Utf8.encode,
    String.toList_append, String.toList_ofList]
  rfl

theorem blank_newline : Json.Blank ['\n'] := List.forall_mem_singleton.mpr (Or.inr rfl)

/-- An import through a registered plugin is printed as two sides: `error`, which is there
exactly where the plugin failed, and `response`.  One side is there and the other is `null`,
unless the plugin answers with what is printed as `null`.  The text is read if its numbers are
integers and it has no more levels than a reader follows. -/
theorem sides_of_import (r : Import.Registry) {plugin : String} (registered : plugin ∈ r.names)
    (source destination : Json) :
    ∃ answer printed, r.dispatch plugin source destination = .ok answer ∧
      (runImportWith r plugin source destination).value = .ok printed ∧
      (∀ v, Json.read printed.text = .ok v → ∃ error response,
        v = .object [("error", error), ("response", response)] ∧
        (error ≠ .null ↔ ∃ e, answer.value = .error e) ∧
        (OneSided error response ↔ ∀ a, answer.value = .ok a → ¬ a.PrintsNull)) ∧
      ((written id answer.value).Integral → (written id answer.value).depth ≤ Json.depthLimit →
        ∃ v, Json.read printed.text = .ok v) := by
  obtain ⟨answer, dispatched⟩ := dispatch_of_mem_names r registered source destination
  have printed : (runImportWith r plugin source destination).value =
      .ok { text := (written id answer.value).pretty ++ "\n",
            success := !(Query.Envelope.mk answer.value).isError } := by
    simp only [runImportWith, dispatched]
    exact printing_id answer.value
  refine ⟨answer, _, dispatched, printed, ?_, ?_⟩
  · intro v read
    rw [Json.read, encode_printed] at read
    obtain ⟨error, response, rfl, ok, failed⟩ :=
      Query.Envelope.sides_of_alike id (Json.alike_of_readBytes _ blank_newline read)
    refine ⟨error, response, rfl, ?_⟩
    cases outcome : answer.value with
    | ok a =>
        obtain ⟨none, alike⟩ := ok a outcome
        have there : response = .null ↔ a.PrintsNull := alike.null_iff
        simp [none, OneSided, there]
    | error e =>
        obtain ⟨none, alike⟩ := failed e outcome
        have there : error = .null ↔ e.toJson.PrintsNull := alike.null_iff
        have object : ¬ e.toJson.PrintsNull := id
        simp [none, OneSided, there, object]
  · intro integral shallow
    refine ⟨(written id answer.value).sorted, ?_⟩
    rw [Json.read, encode_printed]
    exact Json.readBytes_text_blank _ blank_newline integral shallow

/-- A registry with one plugin, which answers every import in the same way. -/
def constantRegistry (name : String) (answer : Import.Outcome) : Import.Registry where
  plugins := [⟨name, fun _ _ => ⟨answer, []⟩⟩]
  sorted := List.pairwise_singleton _ _

/-- An import that answers `true` is printed as one side. -/
theorem sides_of_import_true :
    ∃ printed error response,
      (runImportWith (constantRegistry "flag" (.ok (.bool true))) "flag" .null .null).value =
        .ok printed ∧
      Json.read printed.text = .ok (.object [("error", error), ("response", response)]) ∧
      OneSided error response := by
  have registered : "flag" ∈ (constantRegistry "flag" (.ok (.bool true))).names :=
    List.mem_singleton_self _
  obtain ⟨answer, printed, dispatched, done, sides, read⟩ :=
    sides_of_import _ registered .null .null
  cases dispatched
  obtain ⟨v, read⟩ := read ⟨trivial, trivial, trivial⟩ (by decide)
  obtain ⟨error, response, rfl, -, one⟩ := sides v read
  refine ⟨printed, error, response, done, read, one.mpr ?_⟩
  intro a same
  cases same
  exact id

/-- An import that answers `null` is printed with `null` on both sides. -/
theorem import_answering_null :
    ∃ printed,
      (runImportWith (constantRegistry "none" (.ok .null)) "none" .null .null).value =
        .ok printed ∧
      Json.read printed.text = .ok (.object [("error", .null), ("response", .null)]) := by
  refine ⟨_, printing_id (.ok .null), ?_⟩
  have integral : (written id (.ok .null)).Integral := ⟨trivial, trivial, trivial⟩
  have shallow : (written id (.ok .null)).depth ≤ Json.depthLimit := by decide
  rw [Json.read, encode_printed, Json.readBytes_text_blank _ blank_newline integral shallow,
    ← Query.Envelope.ofList_sides]
  rfl

end SqlGateway.CommandLine
