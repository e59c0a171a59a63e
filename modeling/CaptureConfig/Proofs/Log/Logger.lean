import CaptureConfig.Connector.Basic
import CaptureConfig.Log.Logger
import CaptureConfig.Proofs.Steps

/-!
# Notices that can always be logged

A record cannot be made only when a detail is named like an attribute that every record has. No notice
about filters, options or problems has such a detail.
-/

namespace CaptureConfig

/-- No detail of a notice is named like an attribute that every record has. -/
def Notice.Loggable (n : Notice) : Prop := ∀ d ∈ n.details, d.1 ∉ Logger.attributes

namespace Logger

variable (l : Logger) (now : Instant)

theorem log_of_loggable {n : Notice} (h : n.Loggable) (d : Disk) :
    l.log now n d = .ok (if l.admits n.level.number then l.write (l.recordOf now n) d else ("", d)) := by
  unfold log
  cases l.admits n.level.number with
  | false => rfl
  | true =>
      simp only [↓reduceIte]
      split
      · rename_i hfind
        have hin := List.find?_some hfind
        exact absurd (List.contains_iff_mem.mp hin) (h _ (List.mem_of_find?_eq_some hfind))
      · rfl

theorem log_ok {n : Notice} (h : n.Loggable) (d : Disk) : ∃ out, l.log now n d = .ok out :=
  ⟨_, log_of_loggable l now h d⟩

/-- Logging makes no record, writes nothing, or writes the record of the notice. -/
theorem log_cases (n : Notice) (d : Disk) :
    (∃ fault, l.log now n d = .error fault) ∨ l.log now n d = .ok ("", d) ∨
      l.log now n d = .ok (l.write (l.recordOf now n) d) := by
  unfold log
  split
  · split
    · exact Or.inl ⟨_, rfl⟩
    · exact Or.inr (Or.inr rfl)
  · exact Or.inr (Or.inl rfl)

theorem logAll_ok {ns : List Notice} (h : ∀ n ∈ ns, n.Loggable) (d : Disk) :
    ∃ out, l.logAll now ns d = .ok out := by
  induction ns generalizing d with
  | nil => exact ⟨_, rfl⟩
  | cons n ns ih =>
      rw [List.forall_mem_cons] at h
      obtain ⟨⟨first, d'⟩, hfirst⟩ := log_ok l now h.1 d
      obtain ⟨⟨rest, d''⟩, hrest⟩ := ih h.2 d'
      exact ⟨(first ++ rest, d''), by simp [logAll, hfirst, hrest, bind, Except.bind, pure, Except.pure]⟩

end Logger

namespace Notice

theorem plain_loggable (level : Level) (message : String) : (plain level message).Loggable := by
  intro d hd
  cases hd

/-- The details that a JSON line shows are named like no attribute of a record. -/
theorem loggable_of_shown {n : Notice} (h : ∀ d ∈ n.details, d.1 ∈ LogRecord.shownDetails) :
    n.Loggable := by
  have hnames : ∀ name ∈ LogRecord.shownDetails, name ∉ Logger.attributes := by
    simp [LogRecord.shownDetails, Logger.attributes]
  exact fun d hd => hnames d.1 (h d hd)

theorem invalidValue_loggable (connector : Datum) (p : Problem) :
    (invalidValue connector p).Loggable := by
  have hshown : ["connector", "field"] ⊆ LogRecord.shownDetails := by
    simp [LogRecord.shownDetails]
  exact loggable_of_shown fun d hd => hshown (List.mem_map_of_mem (f := Prod.fst) hd)

end Notice

theorem TableFilters.build_loggable (o : Options) (isBuiltin : TableId → Bool)
    (nameOf : TableId → String) : ∀ n ∈ (build o isBuiltin nameOf).notices, n.Loggable := by
  have hread : ∀ n ∈ (readIgnoreBuiltin o).2, n.Loggable := by
    unfold readIgnoreBuiltin
    split <;> simp [Notice.plain_loggable]
  intro n hn
  unfold build at hn
  dsimp only at hn
  split at hn
  · rcases List.mem_append.mp hn with hn | hn
    · exact hread n hn
    · obtain rfl := List.mem_singleton.mp hn
      exact Notice.plain_loggable _ _
  · exact hread n hn

theorem Connector.build_loggable (setup : ConnectorSetup) (o : Options) :
    ∀ n ∈ (build setup o).notices, n.Loggable := by
  unfold build
  cases setup.isBuiltin with
  | none => simp [Reported.silent]
  | some isBuiltin =>
      cases setup.nameOf with
      | none => simp [Reported.silent]
      | some nameOf => exact TableFilters.build_loggable o isBuiltin nameOf

theorem Connector.validate_loggable (c : Connector) : ∀ n ∈ c.validate.notices, n.Loggable := by
  unfold validate
  split
  · simp [Reported.silent]
  · intro n hn
    obtain ⟨p, -, rfl⟩ := List.mem_map.mp hn
    exact Notice.invalidValue_loggable _ p

end CaptureConfig
