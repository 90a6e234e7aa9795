import InventoryQuery.Error

/-!
# Activities

What a call does besides giving a result: the requests that it makes and the lines that it logs.
A failure ends an activity, and what was done before it stays done.
-/

namespace InventoryQuery

/-- How important a line of the log is. -/
inductive Level where
  | debug
  | warn
  deriving DecidableEq, Repr

/-- A line of the log. -/
structure LogEntry where
  level : Level
  message : String
  deriving DecidableEq, Repr

/-- The word for a level. -/
def Level.word : Level → String
  | debug => "DEBUG"
  | warn => "WARN"

/-- A line of the log as text. -/
def LogEntry.toText (entry : LogEntry) : String := entry.level.word ++ " " ++ entry.message

/-- A call with requests of some kind: those that it made, its log and its result. -/
structure Activity (ρ α : Type) where
  requests : List ρ
  log : List LogEntry
  result : Except Error α

namespace Activity

variable {ρ α β : Type}

/-- A result without requests and log. -/
def ofExcept (result : Except Error α) : Activity ρ α := ⟨[], [], result⟩

/-- A failure. -/
def fail (e : Error) : Activity ρ α := ofExcept (.error e)

/-- Log a line. -/
def write (level : Level) (message : String) : Activity ρ Unit := ⟨[], [⟨level, message⟩], .ok ()⟩

/-- Make a request. -/
def send (request : ρ) : Activity ρ Unit := ⟨[request], [], .ok ()⟩

/-- Continue an activity with its result, unless it failed. -/
def andThen (first : Activity ρ α) (next : α → Activity ρ β) : Activity ρ β :=
  match first.result with
  | .error e => ⟨first.requests, first.log, .error e⟩
  | .ok value =>
    let second := next value
    ⟨first.requests ++ second.requests, first.log ++ second.log, second.result⟩

instance : Monad (Activity ρ) where
  pure value := ofExcept (.ok value)
  bind := andThen

/-- A result that is there at once is handed on. -/
@[simp] theorem ofExcept_ok_bind (value : α) (next : α → Activity ρ β) :
    (ofExcept (.ok value) >>= next) = next value := rfl

/-- A failure ends an activity at once. -/
@[simp] theorem ofExcept_error_bind (e : Error) (next : α → Activity ρ β) :
    (ofExcept (.error e) >>= next) = fail e := rfl

@[simp] theorem requests_ofExcept (result : Except Error α) :
    (ofExcept result : Activity ρ α).requests = [] := rfl

@[simp] theorem requests_fail (e : Error) : (fail e : Activity ρ α).requests = [] := rfl

@[simp] theorem requests_pure (value : α) : (pure value : Activity ρ α).requests = [] := rfl

/-- A line of the log is no request. -/
@[simp] theorem requests_write_bind (level : Level) (message : String)
    (next : Unit → Activity ρ β) :
    (write level message >>= next).requests = (next ()).requests := rfl

@[simp] theorem requests_send_bind (request : ρ) (next : Unit → Activity ρ β) :
    (send request >>= next).requests = request :: (next ()).requests := rfl

/-- An activity that goes on makes its own requests and then those of what follows. -/
theorem requests_bind_ok {first : Activity ρ α} {value : α} (hfirst : first.result = .ok value)
    (next : α → Activity ρ β) :
    (first >>= next).requests = first.requests ++ (next value).requests := by
  change (first.andThen next).requests = _
  rw [andThen, hfirst]

/-- An activity that fails has made its own requests only. -/
theorem requests_bind_error {first : Activity ρ α} {e : Error} (hfirst : first.result = .error e)
    (next : α → Activity ρ β) : (first >>= next).requests = first.requests := by
  change (first.andThen next).requests = _
  rw [andThen, hfirst]

/-- An activity that ends with a value has gone on with a value in between. -/
theorem exists_of_result_bind {first : Activity ρ α} {next : α → Activity ρ β} {value : β}
    (h : (first >>= next).result = .ok value) :
    ∃ between, first.result = .ok between ∧ (next between).result = .ok value := by
  change (first.andThen next).result = .ok value at h
  rw [andThen] at h
  cases hfirst : first.result with
  | error e =>
    rw [hfirst] at h
    contradiction
  | ok between =>
    rw [hfirst] at h
    exact ⟨between, rfl, h⟩

/-- An activity that goes on with a value ends as what follows does. -/
theorem result_bind_ok {first : Activity ρ α} {value : α} (hfirst : first.result = .ok value)
    (next : α → Activity ρ β) : (first >>= next).result = (next value).result := by
  change (first.andThen next).result = _
  rw [andThen, hfirst]

/-- An activity that goes on without requests makes its own only. -/
theorem requests_bind_of_forall_eq_nil {first : Activity ρ α} {next : α → Activity ρ β}
    (hnext : ∀ value, (next value).requests = []) :
    (first >>= next).requests = first.requests := by
  cases hfirst : first.result with
  | error e => exact requests_bind_error hfirst next
  | ok value => rw [requests_bind_ok hfirst, hnext, List.append_nil]

end Activity

end InventoryQuery
