import Countersign.Http.Message

/-!
# Requests with credentials

A request that is given credentials carries these and no others, and its other headers stay.
Neither that nor reading its content changes where it goes.
-/

namespace Countersign

namespace Headers

variable (headers : Headers) (name value : String)

theorem sameName_self : sameName name name := by
  simp [sameName]

/-- What replaced the values of a name is the only value of it. -/
theorem values_replace : (headers.replace name value).values name = [value] := by
  induction headers with
  | nil => simp [replace, values, sameName_self]
  | cons header headers induction =>
      by_cases same : sameName header.1 name
      · simp [replace, values, same, sameName_self]
      · simp only [values] at induction
        simp [replace, values, same, induction]

/-- The headers of other names stay in their order. -/
theorem filter_replace :
    (headers.replace name value).filter (fun header => !sameName header.1 name) =
      headers.filter fun header => !sameName header.1 name := by
  induction headers with
  | nil => simp [replace, sameName_self]
  | cons header headers induction =>
      by_cases same : sameName header.1 name
      · simp [replace, same, sameName_self]
      · simp [replace, same, induction]

end Headers

namespace Request

variable (request : Request)

@[simp]
theorem authorization_withAuthorization (value : String) :
    (request.withAuthorization value).authorization = [value] :=
  Headers.values_replace request.headers authorizationHeader value

@[simp]
theorem authorization_buffer (request : Request) :
    request.buffer.authorization = request.authorization := rfl

@[simp]
theorem url_buffer (request : Request) : request.buffer.url = request.url := rfl

@[simp]
theorem method_buffer (request : Request) : request.buffer.method = request.method := rfl

theorem authorize_of_sendable {value : String} (sendable : Ascii.fault? value = none) :
    request.authorize value = .ok (request.withAuthorization value) := by
  simp [authorize, sendable]

theorem authorize_of_fault {value : String} {fault : Ascii.Fault}
    (faulty : Ascii.fault? value = some fault) :
    request.authorize value = .error (.unsendable fault) := by
  simp [authorize, faulty]

end Request
end Countersign
