import Mathlib.Data.List.Count
import PocketSql.Log
/-!
# Records as they are written

What is written of a record is its level and its wording, and the wording begins with the name of
the part that the record comes from. A change of a store can be told from what is written: the name
of the table stands in it, and nothing else is written alike.
-/

namespace PocketSql.Event

variable {event change : Event} {events : List Event}

/-- What is written of a record. -/
def written (event : Event) : Level × String :=
  (event.level, event.message)

/-- Whether the wording of a record begins with the name of a part. -/
def isFrom (part : String) (event : Event) : Bool :=
  ("[" ++ part ++ "]").toList.isPrefixOf event.message.toList

/-- Whether a record is one of a store. -/
def ofStore : Event → Bool
  | .tableCreated _ | .tableReplaced _ | .rowAppended _ | .valueSkipped _ => true
  | _ => false

/-- Whether a record is that of a token which does not fit. -/
def ofRefusal : Event → Bool
  | .refused _ _ _ => true
  | _ => false

theorem isFrom_eq_ofStore (event : Event) : event.isFrom "MemoryBackend" = event.ofStore := by
  unfold isFrom message
  cases event <;> simp [ofStore, List.isPrefixOf]

theorem isFrom_eq_ofRefusal (event : Event) : event.isFrom "Parser" = event.ofRefusal := by
  unfold isFrom message
  cases event <;> simp [ofRefusal, List.isPrefixOf]

/-- No other record is written like one of a store. -/
theorem eq_of_written (hchange : change.ofStore = true) (h : event.written = change.written) :
    event = change := by
  obtain ⟨hlevel, hmessage⟩ := Prod.mk.inj h
  -- The wording tells the part, so few pairs of records are left to be compared.
  have hevent : event.ofStore = true := by
    rw [← isFrom_eq_ofStore, isFrom, hmessage, ← isFrom, isFrom_eq_ofStore, hchange]
  unfold message at hmessage
  cases change <;> cases hchange <;> cases event <;> cases hevent <;>
    simp_all [level, String.ext_iff]

theorem mem_written_iff (hchange : change.ofStore = true) :
    change.written ∈ events.map written ↔ change ∈ events := by
  constructor
  · intro h
    obtain ⟨event, hevent, hwritten⟩ := List.mem_map.mp h
    rwa [← eq_of_written hchange hwritten]
  · exact List.mem_map_of_mem

theorem count_written (hchange : change.ofStore = true) :
    (events.map written).count change.written = events.count change := by
  rw [List.count_eq_countP, List.countP_map, List.count_eq_countP]
  apply List.countP_congr
  intro event _
  simp only [Function.comp_apply, beq_iff_eq]
  exact ⟨eq_of_written hchange, congrArg written⟩

end PocketSql.Event
