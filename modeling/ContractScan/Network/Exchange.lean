import ContractScan.Json.Bytes

/-!
# Exchanges -- requests, replies, and scripts of replies

The outside world is given as two scripts: the replies to the posts and the replies to the gets, each in
order. A request takes the next reply of its script; when a script is used up, there is no connection.
What a computation asked for is part of its result.
-/

namespace ContractScan.Network

/-- A request that was made. -/
inductive Request where
  | post (url : String) (body : Json)
  | get (url : String) (params : List (String × String))

/-- Why there is no answer. -/
inductive Failure where
  | connect
  | timeout
  /-- The connection broke. -/
  | read
  /-- The other side broke the protocol. -/
  | protocol
  /-- The body could not be unpacked. -/
  | decode
  | redirects
  deriving DecidableEq, Repr

/-- What a request is met with. -/
inductive Reply where
  | answer (status : Int) (body : Json.Bytes)
  | failure (f : Failure)
  deriving DecidableEq, Repr

/-- The replies to come. -/
structure Scripts where
  posts : List Reply
  gets : List Reply
  deriving DecidableEq, Repr

/-- The next reply of a script, and the replies after it. -/
def takeReply : List Reply → Reply × List Reply
  | [] => (.failure .connect, [])
  | r :: rs => (r, rs)

/-- Why a reply gives no value. -/
inductive ReplyError where
  | failed (f : Failure)
  /-- The status does not stand for success. -/
  | badStatus
  | badBody (e : Json.BodyError)
  deriving DecidableEq, Repr

/-- Whether a status stands for success. -/
def isSuccess (status : Int) : Bool := 200 ≤ status && status ≤ 299

/-- The value that a reply gives. -/
def Reply.value (r : Reply) : Except ReplyError Json :=
  match r with
  | .failure f => .error (.failed f)
  | .answer status body =>
    if isSuccess status then (Json.readBytes body).mapError .badBody else .error .badStatus

end ContractScan.Network
