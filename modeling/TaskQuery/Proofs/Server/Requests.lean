import TaskQuery.Server.Compile
/-!
# What a comparison asks of the server

A comparison asks for a value under a request parameter, or there is a reason why the server
does not compare so. The walk sends the value if nothing but an equal one stands under the
parameter, and adds one reason otherwise.
-/

namespace TaskQuery.Server

open Query (Operator)

variable {c : Capabilities}

/-- What a comparison asks of the server, a request parameter with a value, or why the
server does not compare so. -/
def requestOf (c : Capabilities) (field : String) (op : Operator) (value : Value) :
    Except Reason (String × Value) :=
  if !c.supportsField field then
    .error (.unsupportedField field)
  else if isClientOperator op then
    .error (.clientOperator op)
  else
    match c.parameter? field op with
    | none =>
        .error (if op.isRange then .rangeOperator op field else .unsupportedOperator op field)
    | some key => if value.isNull then .error (.nullComparison field) else .ok (key, value)

/-- What comes of a request: a parameter if the server makes the comparison, else the first
reason against it. -/
inductive Asked (c : Capabilities) (field : String) (op : Operator) (value : Value) :
    Except Reason (String × Value) → Prop where
  | unsupportedField (unknown : c.supportsField field = false) :
      Asked c field op value (.error (.unsupportedField field))
  | clientOperator (client : isClientOperator op = true) :
      Asked c field op value (.error (.clientOperator op))
  | rangeOperator (missing : c.parameter? field op = none) (range : op.isRange = true) :
      Asked c field op value (.error (.rangeOperator op field))
  | unsupportedOperator (missing : c.parameter? field op = none) (plain : op.isRange = false) :
      Asked c field op value (.error (.unsupportedOperator op field))
  | nullComparison (isNull : value.isNull = true) :
      Asked c field op value (.error (.nullComparison field))
  | request {key : String} (supported : c.supportsField field = true)
      (server : isClientOperator op = false) (parameter : c.parameter? field op = some key)
      (given : value.isNull = false) :
      Asked c field op value (.ok (key, value))

theorem asked_requestOf (c : Capabilities) (field : String) (op : Operator) (value : Value) :
    Asked c field op value (requestOf c field op value) := by
  unfold requestOf
  cases hfield : c.supportsField field with
  | false => exact .unsupportedField hfield
  | true =>
      cases hop : isClientOperator op with
      | true => exact .clientOperator hop
      | false =>
          cases hkey : c.parameter? field op with
          | none =>
              cases hrange : op.isRange with
              | true => exact .rangeOperator hkey hrange
              | false => exact .unsupportedOperator hkey hrange
          | some key =>
              cases hnull : value.isNull with
              | true => exact .nullComparison hnull
              | false => exact .request hfield hop hkey hnull

namespace Walk

def admits (c : Capabilities) (w : Walk) (key : String) (value : Value) : Bool :=
  match w.filter.get? key with
  | some earlier => earlier.same (sentValue c key value)
  | none => true

def send (c : Capabilities) (w : Walk) (key : String) (value : Value) : Walk :=
  { w with filter := w.filter.put key (sentValue c key value) }

def note (w : Walk) (reason : Reason) : Walk :=
  { w with reasons := w.reasons ++ [reason] }

@[simp] theorem reasons_note (w : Walk) (reason : Reason) :
    (w.note reason).reasons = w.reasons ++ [reason] := rfl

@[simp] theorem reasons_send (w : Walk) (key : String) (value : Value) :
    (w.send c key value).reasons = w.reasons := rfl

theorem admits_iff_free (w : Walk) (key : String) (value : Value) :
    w.admits c key value = true ↔
      ∀ earlier, w.filter.get? key = some earlier →
        earlier.same (sentValue c key value) = true := by
  unfold admits
  cases w.filter.get? key with
  | none => simp
  | some earlier => simp

theorem enter_eq (w : Walk) (field key : String) (value : Value) :
    w.enter field key (sentValue c key value) =
      if w.admits c key value then (true, w.send c key value)
      else (false, w.note (.conflict field)) := by
  unfold enter admits
  cases w.filter.get? key with
  | none => rfl
  | some earlier => rfl

theorem visitComparison_eq (w : Walk) (field : String) (op : Operator) (value : Value) :
    w.visitComparison c field op value =
      match requestOf c field op value with
      | .error reason => (false, w.note reason)
      | .ok (key, sent) =>
          if w.admits c key sent then (true, w.send c key sent)
          else (false, w.note (.conflict field)) := by
  unfold visitComparison requestOf
  split
  · rfl
  · split
    · rfl
    · cases c.parameter? field op with
      | none => rfl
      | some key =>
          cases hnull : value.isNull with
          | true => rfl
          | false => simp only [Bool.false_eq_true, if_false, enter_eq]

end Walk

end TaskQuery.Server
