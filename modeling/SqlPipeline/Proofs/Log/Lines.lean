import Mathlib.Tactic.Common
import SqlPipeline.Log.Run
import SqlPipeline.Proofs.Log.Redaction
import SqlPipeline.Proofs.Value.Mapping

/-!
# What the lines of the log are made of

The line of a record is put together from what is written of its event (`line?_record?`). A text
that JSON writes without escapes stands between quotation marks as it is, so it conceals the secrets
that it conceals without them, unless a secret holds a quotation mark itself
(`conceals_quote_of_asIs`).
-/

namespace SqlPipeline

namespace Json

theorem toList_quote (text : String) :
    (quote text).toList = '"' :: (text.toList.flatMap escapeChar ++ ['"']) := by
  simp only [quote, String.toList_append, String.toList_ofList, List.append_assoc]
  rfl

/-- Whether JSON writes a text as it is, between quotation marks. -/
def AsIs (text : String) : Prop :=
  ∀ c ∈ text.toList, escapeChar c = [c]

instance (text : String) : Decidable (AsIs text) :=
  inferInstanceAs (Decidable (∀ c ∈ text.toList, escapeChar c = [c]))

/-- Quotation marks around a text give no secret away that holds none. -/
theorem conceals_quote_of_asIs {secrets : List String} {text : String}
    (noMark : ∀ secret ∈ secrets, '"' ∉ secret.toList) (nonempty : ∀ secret ∈ secrets, secret ≠ "")
    (asIs : AsIs text) (conceals : Conceals secrets text) : Conceals secrets (quote text) := by
  intro secret member occurs
  have same : text.toList.flatMap escapeChar = text.toList := by
    have each : text.toList.flatMap escapeChar = text.toList.flatMap fun c => [c] :=
      List.flatMap_congr asIs
    rw [each, List.flatMap_singleton']
  have split : '"' :: (text.toList ++ ['"']) = [] ++ '"' :: (text.toList ++ '"' :: []) := rfl
  rw [toList_quote, same, split] at occurs
  have notEmpty : secret.toList ≠ [] := fun empty =>
    nonempty secret member (String.toList_eq_nil_iff.mp empty)
  rcases Text.infix_of_infix_append_cons (noMark secret member) occurs with inFront | behind
  · exact notEmpty (List.infix_nil.mp inFront)
  · rcases Text.infix_of_infix_append_cons (noMark secret member) behind with inText | inBack
    · exact conceals secret member inText
    · exact notEmpty (List.infix_nil.mp inBack)

end Json

namespace Logger

variable {logger : Logger}

/-- The written details are the details, each written. -/
theorem mem_of_writeDetails? {details : List (String × Value)} {texts : List (String × String)}
    (written : logger.writeDetails? details = some texts) {name text : String} :
    (name, text) ∈ texts ↔
      ∃ value, (name, value) ∈ details ∧ logger.writeValue? value = some text := by
  induction details generalizing texts with
  | nil =>
      cases written
      simp
  | cons detail details ih =>
      simp only [writeDetails?, Option.bind_eq_bind, Option.bind_eq_some_iff] at written
      rcases written with ⟨first, isFirst, others, areOthers, same⟩
      cases same
      rw [List.mem_cons, ih areOthers]
      constructor
      · rintro (here | ⟨value, member, isText⟩)
        · cases here
          exact ⟨detail.2, List.mem_cons_self, isFirst⟩
        · exact ⟨value, List.mem_cons_of_mem _ member, isText⟩
      · rintro ⟨value, member, isText⟩
        rcases List.mem_cons.mp member with rfl | later
        · exact Or.inl (by rw [Option.some.inj (isFirst.symm.trans isText)])
        · exact Or.inr ⟨value, later, isText⟩

theorem writeDetails?_of_plain (isPlain : logger.structured = false)
    (details : List (String × Value)) :
    logger.writeDetails? details =
      some (details.map fun (name, value) => (name, value.display)) := by
  induction details with
  | nil => rfl
  | cons detail details ih =>
      rw [writeDetails?, ih, writeValue?, isPlain]
      rfl

theorem jsonEntries?_details (isStructured : logger.structured = true)
    (details : List (String × Value)) :
    jsonEntries? (details.map fun (name, value) => (.str name, value)) =
      (logger.writeDetails? details).map fun texts =>
        texts.map fun (name, text) => Json.quote name ++ ": " ++ text := by
  induction details with
  | nil => rfl
  | cons detail details ih =>
      rw [List.map_cons, jsonEntries?, writeDetails?, writeValue?, isStructured, if_pos rfl, ih]
      rcases detail.2.json? with _ | text
      · rfl
      · rcases logger.writeDetails? details with _ | texts <;> rfl

/-- An event yields a record when its level passes. -/
theorem record?_eq (logger : Logger) (event : Event) :
    logger.record? event =
      if logger.passes event.level then
        some (if logger.structured then
          .structured event.level (redact logger.secrets event.message)
            (logger.redactDetails event.details)
        else
          .plain event.level (event.level.tag ++ redact logger.secrets event.message ++
            context (logger.redactDetails event.details)))
      else none := by
  by_cases enough : logger.threshold ≤ event.level.rank
  · rw [record?, if_neg (by omega), passes, decide_eq_true enough, Bool.true_and]
    cases logger.structured
    · rw [Bool.false_or]
      rfl
    · rfl
  · rw [record?, if_pos (by omega), passes, decide_eq_false enough, Bool.false_and]
    rfl

theorem context_display (details : List (String × Value)) :
    Written.context (details.map fun (name, value) => (name, value.display)) = context details := by
  cases details with
  | nil => rfl
  | cons detail details => simp [Written.context, context, Function.comp_def]

theorem distinct_details {names : List (String × Value)} (nodup : (names.map Prod.fst).Nodup) :
    Mapping.Distinct (names.map fun (name, value) => (Key.str name, value)) := by
  have same : Mapping.identities (names.map fun (name, value) => (Key.str name, value)) =
      (names.map Prod.fst).map Key.Identity.text := by
    rw [Mapping.identities, List.map_map, List.map_map]
    rfl
  rw [Mapping.Distinct, same]
  exact nodup.map fun _ _ => Key.Identity.text.inj

/-- The line of a record is put together from what is written of its event, when no detail is called
like another or like what the event has itself. -/
theorem line?_record? (logger : Logger) (event : Event) (time : String)
    (distinct : ("timestamp" :: "level" :: "message" :: event.details.map Prod.fst).Nodup) :
    (logger.record? event).bind (Record.line? time) =
      (logger.written? event).map (Written.line logger time event.level) := by
  rw [record?_eq, written?]
  by_cases passed : logger.passes event.level = true
  · rw [if_pos passed, if_pos passed, Option.bind_some]
    rcases structured : logger.structured with _ | _
    · rw [if_neg Bool.false_ne_true, writeDetails?_of_plain structured]
      simp only [Record.line?, Written.line, structured, writeText, Option.bind_eq_bind,
        Option.bind_some, Option.pure_def, Option.map_some, Bool.false_eq_true, if_false,
        context_display]
    · have names : (logger.redactDetails event.details).map Prod.fst =
          event.details.map Prod.fst := by
        rw [redactDetails, List.map_map]
        rfl
      have apart := @distinct_details (("timestamp", .str time) ::
        ("level", .str event.level.name) ::
          ("message", .str (redact logger.secrets event.message)) ::
            logger.redactDetails event.details) (by simpa [names] using distinct)
      have entries := Mapping.ofEntries_of_distinct apart
      simp only [List.map_cons] at entries
      rw [if_pos rfl, Record.line?, entries, Value.json?]
      simp only [jsonEntries?, jsonEntries?_details structured]
      rcases logger.writeDetails? (logger.redactDetails event.details) with _ | texts
      · rfl
      · simp [Json.key?, Value.json?, Written.line, structured, writeText, Function.comp_def]
  · rw [if_neg passed, if_neg passed]
    rfl

end Logger

end SqlPipeline
