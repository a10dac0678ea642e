import WpgRaster.Proofs.Row.Assembly
import WpgRaster.Proofs.Simulation
import WpgRaster.Row.Log

/-!
# Rows handed to a log

A log keeps what it is handed, so rows that were handed over can be read
back from it, in their order. Any consumer can be given a log as well
(`Logged`): it then takes and refuses what it takes and refuses without,
and the rows that it took can be read back.
-/

namespace WpgRaster

namespace RowLog

/-- An empty log becomes one that takes every row and has the rows that it
was handed. -/
theorem of_handed {rows : List Bytes} {log : RowLog} (handed : Handed empty rows log) :
    log.refused = none ∧ log.received.toList = rows.mapIdx fun row bytes => (row, bytes) := by
  induction handed with
  | none => exact ⟨rfl, rfl⟩
  | @more rows row before after _ taken ih =>
    have pushed : RowConsumer.consume rows.length row before
        = .ok () { before with received := before.received.push (rows.length, row) } :=
      if_neg (by rw [ih.1]; nofun)
    rw [pushed] at taken
    cases taken
    refine ⟨ih.1, ?_⟩
    rw [Array.toList_push, ih.2, List.mapIdx_append, List.mapIdx_singleton, Nat.zero_add]

/-- **A log accepts all rows.** -/
theorem accepts_empty (limit : Nat) : Accepts empty limit := by
  intro rows before handed _ row
  exact ⟨_, if_neg (by rw [(of_handed handed).1]; nofun)⟩

end RowLog

/-! ## Consumers with a log -/

/-- A consumer and the rows that it took, in their order. -/
structure Logged (κ : Type) where
  /-- The consumer. -/
  consumer : κ
  /-- The rows that it took. -/
  rows : List Bytes := []

namespace Logged

variable {κ : Type} [RowConsumer κ]

instance : RowConsumer (Logged κ) where
  consume row bytes := fun ⟨consumer, rows⟩ =>
    match RowConsumer.consume row bytes consumer with
    | .ok () after => .ok () ⟨after, rows ++ [bytes]⟩
    | .error err after => .error err ⟨after, rows⟩

/-- A row that is taken is entered, and one that is refused is not. -/
theorem consume_eq (row : Nat) (bytes : Bytes) (consumer : κ) (rows : List Bytes) :
    (RowConsumer.consume row bytes : EStateM RasterError (Logged κ) Unit) ⟨consumer, rows⟩
      = match RowConsumer.consume row bytes consumer with
        | .ok () after => .ok () ⟨after, rows ++ [bytes]⟩
        | .error err after => .error err ⟨after, rows⟩ := rfl

/-- What is taken with a log is taken without, and entered. -/
theorem consume_ok {row : Nat} {bytes : Bytes} {logged after : Logged κ}
    (taken : RowConsumer.consume row bytes logged = .ok () after) :
    RowConsumer.consume row bytes logged.consumer = .ok () after.consumer
      ∧ after.rows = logged.rows ++ [bytes] := by
  rw [consume_eq] at taken
  cases ran : RowConsumer.consume row bytes logged.consumer with
  | ok _ after' =>
    rw [ran] at taken
    cases taken
    exact ⟨rfl, rfl⟩
  | error err after' =>
    rw [ran] at taken
    cases taken

/-- What is refused with a log is refused without, and not entered. -/
theorem consume_error {row : Nat} {bytes : Bytes} {logged after : Logged κ} {err : RasterError}
    (refused : RowConsumer.consume row bytes logged = .error err after) :
    RowConsumer.consume row bytes logged.consumer = .error err after.consumer
      ∧ after.rows = logged.rows := by
  rw [consume_eq] at refused
  cases ran : RowConsumer.consume row bytes logged.consumer with
  | ok _ after' =>
    rw [ran] at refused
    cases refused
  | error err after' =>
    rw [ran] at refused
    cases refused
    exact ⟨rfl, rfl⟩

/-- **A consumer with a log simulates the consumer.** -/
theorem simulates :
    ConsumerSimulates fun (consumer : κ) (logged : Logged κ) => logged.consumer = consumer := by
  rintro row bytes _ ⟨consumer, rows⟩ rfl
  rw [consume_eq]
  dsimp only
  cases RowConsumer.consume row bytes consumer with
  | ok _ after => exact .ok rfl
  | error err after => exact .error rfl

/-- **The log has the rows that were handed over**, and the consumer was handed them too. -/
theorem of_handed {start : κ} {rows : List Bytes} {logged : Logged κ}
    (handed : Handed { consumer := start } rows logged) :
    logged.rows = rows ∧ Handed start rows logged.consumer := by
  induction handed with
  | none => exact ⟨rfl, .none⟩
  | more _ taken ih =>
    obtain ⟨ran, entered⟩ := consume_ok taken
    exact ⟨entered.trans (congrArg (· ++ _) ih.1), ih.2.more ran⟩

/-- With a log, a consumer takes what it takes without. -/
theorem accepts {start : κ} {limit : Nat} (accepts : Accepts start limit) :
    Accepts ({ consumer := start } : Logged κ) limit := by
  rintro rows ⟨consumer, entered⟩ handed few row
  obtain ⟨after, taken⟩ := accepts rows consumer (of_handed handed).2 few row
  refine ⟨⟨after, entered ++ [row]⟩, ?_⟩
  rw [consume_eq, taken]

end Logged

end WpgRaster
