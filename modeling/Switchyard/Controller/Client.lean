import Switchyard.Controller.Exchange
import Switchyard.Failure
import Switchyard.Group
import Switchyard.Json.Printer
import Switchyard.Json.Reader
import Switchyard.Settings
import Switchyard.Url.Reader

/-!
# Asking the controller

The controller lists its proxies and groups under one path and selects a member
of a group when it is told to. Names go into the path as segments of their own,
whatever characters they hold. To measure a group the controller asks every
member; a measurement that takes the controller too long is no failure.
-/

namespace Switchyard.Controller

/-- What is needed to ask a controller; times are in milliseconds. -/
structure Client where
  base : Url
  secret : Option String
  requestTimeout : Nat
  probeUrl : String
  probeTimeout : Nat
deriving DecidableEq

namespace Client

def ofAccess (access : Settings.Access) : Except ControllerError Client :=
  match Url.parse access.url with
  | .error error => .error (.invalidUrl (access.url ++ ": " ++ error.message))
  | .ok base =>
    if base.isHierarchical then
      .ok {
        base := base
        secret := access.effective.secret
        requestTimeout := access.requestTimeout.toNat
        probeUrl := access.probeUrl
        probeTimeout := access.probeTimeout.toNat }
    else .error (.invalidUrl access.url)

def endpoint (client : Client) (names : List String) : Url :=
  client.base.below names

def get (client : Client) (url : Url) : Request :=
  ⟨.get, url, client.secret, none, client.requestTimeout⟩

def groupRequest (client : Client) (group : String) : Request :=
  client.get (client.endpoint ["proxies", group])

def listRequest (client : Client) : Request :=
  client.get (client.endpoint ["proxies"])

/-- The request that has a group measured. It waits for the slowest member. -/
def probeRequest (client : Client) (group : String) : Request :=
  let url := (client.endpoint ["group", group, "delay"]).withPairs
    [("url", client.probeUrl), ("timeout", toString client.probeTimeout)]
  { client.get url with
    timeLimit := max client.requestTimeout (2 * client.probeTimeout) }

def selectRequest (client : Client) (group proxy : String) : Request :=
  { client.groupRequest group with
    method := .put
    body := some (Json.object [("name", .text proxy)]).compact }

end Client

/-- What the controller says about a proxy or a group. A proxy has no members,
and neither a proxy nor some groups say what is selected. -/
structure Entry where
  selected : Option String
  members : Option (List String)
  delay : Delay
deriving DecidableEq, Repr

def measurement? (value : Json) : Option Int := do
  let fields ← value.fields? ["time", "delay"]
  let _ ← fields.orElse "time" "" Json.text?
  some (← fields.orElse "delay" 0 Json.int64?).toInt

def Entry.ofJson? (value : Json) : Option Entry := do
  let fields ← value.fields? ["name", "type", "now", "all", "history"]
  let _ ← fields.orElse "name" "" Json.text?
  let _ ← fields.orElse "type" "" Json.text?
  some {
    selected := ← fields.optional "now" Json.text?
    members := ← fields.optional "all" (Json.list? Json.text?)
    delay :=
      Delay.ofMeasurements
        (← fields.orElse "history" [] (Json.list? measurement?)) }

def entries? (value : Json) : Option (NameMap Entry) := do
  (← value.fields? ["proxies"]).orElse "proxies" NameMap.empty
    (Json.map? Entry.ofJson?)

/-- The message in the body of a response that tells of a failure: the one that
is written there, or else the whole body. -/
def failureMessage (body : String) : String :=
  let written := do
    let value ← Json.parse? body
    (← value.fields? ["message"]).orElse "message" "" Json.text?
  match written with
  | some message => if message.isEmpty then body else message
  | none => body

def failureOf (response : Response) : ControllerError :=
  .api response.status (failureMessage response.body)

def decode {Value : Type} (read : Json → Option Value) (response : Response) :
    Except ControllerError Value :=
  match (Json.parse? response.body).bind read with
  | some value => .ok value
  | none => .error (.invalidResponse "error decoding response body")

namespace Client

def send (client : Client) (request : Request) :
    Inquiry (Except ControllerError Response) := do
  match ← (Routine.call request : Inquiry Reply) with
  | .ok response => pure (.ok response)
  | .error .tooLate => pure (.error (.timeout client.requestTimeout))
  | .error (.broken reason) => pure (.error (.network reason))

def groupEntry (group : String) (response : Response) :
    Except ControllerError Entry :=
  if response.status = 404 then .error (.groupNotFound group)
  else if response.isSuccess then decode Entry.ofJson? response
  else .error (failureOf response)

def listEntries (response : Response) :
    Except ControllerError (NameMap Entry) :=
  if response.isSuccess then decode entries? response
  else .error (failureOf response)

def groupOf (name : String) (order : MemberOrder) (selected : Option String)
    (members : List String) (entries : NameMap Entry) : Group :=
  let proxy (member : String) : Proxy :=
    ⟨member, "", ((entries.find? member).map Entry.delay).getD .unknown⟩
  (Group.mk name (selected.getD "") (members.map proxy)).sorted order

def query (client : Client) (group : String) (order : MemberOrder) :
    Inquiry (Except ControllerError Group) := do
  match (← client.send (client.groupRequest group)).bind (groupEntry group) with
  | .error error => pure (.error error)
  | .ok entry =>
    match entry.members with
    | none =>
      pure (.error (.invalidResponse (group ++ " is not a proxy group")))
    | some members =>
      let listed ← client.send client.listRequest
      pure ((listed.bind listEntries).map
        (groupOf group order entry.selected members))

def probe (client : Client) (group : String) :
    Inquiry (Except ControllerError Unit) := do
  match ← client.send (client.probeRequest group) with
  | .error error => pure (.error error)
  | .ok response =>
    if response.status = 404 then pure (.error (.groupNotFound group))
    else if response.status = 504 ∨ response.status = 408 then pure (.ok ())
    else if response.isSuccess then pure (.ok ())
    else pure (.error (failureOf response))

/-- Selects a proxy in a group. The answer is whether the controller took it. -/
def select (client : Client) (group proxy : String) :
    Inquiry (Except ControllerError Bool) := do
  match ← client.send (client.selectRequest group proxy) with
  | .error error => pure (.error error)
  | .ok response =>
    if response.status = 204 ∨ response.status = 200 then pure (.ok true)
    else if response.status = 400 then pure (.ok false)
    else if response.status = 404 then pure (.error (.groupNotFound group))
    else pure (.error (failureOf response))

end Client

end Switchyard.Controller
