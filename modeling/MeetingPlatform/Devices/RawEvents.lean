import MeetingPlatform.Lib.JsonValues

/- Raw events of the face devices, whose fields come under many names, and what is made of them once
   they are stored. -/
namespace DeviceEvents
open JsonValues

section Rows

inductive IoTDeviceEventType where
  | heartbeat | deviceError | streamStarted | streamStopped | mqttMessage | faceDetected | faceVerify
  | faceStranger
  deriving DecidableEq, Repr

inductive IoTEventProcessedStatus where
  | received | processed | ignored | failed
  deriving DecidableEq, Repr

inductive RecognitionResult where
  | recognized | stranger
  deriving DecidableEq, Repr

abbrev Fields := List (String × Json)

structure NormalizedEvent where
  rawEventId : Nat
  eventType : IoTDeviceEventType
  recognitionResult : RecognitionResult
  deviceId : Nat
  deviceCode : Json
  deviceType : Json
  roomId : Json
  devicePersonId : Json
  devicePersonCode : Json
  devicePersonName : Json
  eventTime : Int
  receivedAt : Int
  similarity : Option Number
  confidenceScore : Option Number
  hasImage : Bool
  fileCount : Nat
  fileMetadata : List Json
  normalizedAt : Int

/-- The fields of `payload_json` that are read. The receiver of the event has written all of them but
    the sample and the fields taken from it, which come from the device. -/
structure PayloadJson where
  rawPayloadSample : Option Fields := none
  extractedFields : Option Fields := none
  receivedAt : Option Int := none
  deviceSnapshot : Option Fields := none
  fileMetadata : Option (List Json) := none
  normalizedEvent : Option NormalizedEvent := none

/-- A date is `none` where it is invalid. -/
structure IoTDeviceEvent where
  id : Nat
  deviceId : Nat
  eventType : IoTDeviceEventType
  eventTime : Option Int
  payloadJson : PayloadJson
  processedStatus : IoTEventProcessedStatus
  errorMessage : Option String := none

end Rows

section Lookup

abbrev Key := List String

/-- `part in current` throws where `current` is no object. None of the parts that are looked for is an
    index of an array or belongs to a prototype. -/
def follow : Json → Key → Except JsError (Option Json)
  | current, [] => .ok (some current)
  | .null, _ :: _ => .ok none
  | .arr _, _ :: _ => .ok none
  | .obj fields, part :: parts =>
    match fields.lookup part with
    | some v => follow v parts
    | none => .ok none
  | .bool _, _ :: _ | .num _, _ :: _ | .str _, _ :: _ => .error .typeError

def usable : Json → Bool
  | .null => false
  | .str s => s ≠ ""
  | _ => true

def extractField (source : Json) : List Key → Except JsError Json
  | [] => .ok .null
  | key :: keys =>
    match follow source key with
    | .error e => .error e
    | .ok none => extractField source keys
    | .ok (some v) => if usable v then .ok v else extractField source keys

def devicePersonIdKeys : List Key :=
  [["person_id"], ["personId"], ["PersonID"], ["UserID"], ["user_id"], ["EmployeeID"], ["employee_id"],
    ["card_no"], ["CardNo"], ["id"], ["data", "person_id"], ["data", "personId"], ["data", "PersonID"],
    ["info", "PersonID"]]

def devicePersonNameKeys : List Key :=
  [["person_name"], ["personName"], ["PersonName"], ["name"], ["Name"], ["UserName"], ["employee_name"],
    ["EmployeeName"], ["data", "personName"], ["info", "PersonName"]]

def devicePersonCodeKeys : List Key :=
  [["person_code"], ["personCode"], ["PersonCode"], ["employee_code"], ["EmployeeCode"]]

def similarityKeys : List Key :=
  [["similarity"], ["Similarity"], ["score"], ["Score"], ["confidence"], ["confidence_score"],
    ["Confidence"], ["FaceScore"], ["data", "similarity"], ["info", "Similarity"]]

def eventTimeKeys : List Key :=
  [["event_time"], ["eventTime"], ["EventTime"], ["capture_time"], ["captureTime"], ["CaptureTime"],
    ["verify_time"], ["verifyTime"], ["VerifyTime"], ["timestamp"], ["Timestamp"], ["time"], ["Time"]]

/-- `value || other`. -/
def orElse (value : Option Json) (other : Json) : Json :=
  match value with
  | some v => if v.truthy then v else other
  | none => other

def searchSource (payload extracted : Fields) : Json :=
  .obj (("info", orElse (payload.lookup "info") (.obj [])) ::
    ("data", orElse (payload.lookup "data") (.obj [])) :: (extracted ++ payload))

def IoTDeviceEvent.source (event : IoTDeviceEvent) : Json :=
  searchSource (event.payloadJson.rawPayloadSample.getD []) (event.payloadJson.extractedFields.getD [])

end Lookup

section Normalization
variable (t : Texts)

def similarityOf (similarityVal : Json) : Except JsError (Option Number) :=
  match similarityVal with
  | .null => .ok none
  | v => v.number t

def numericDate (numVal : Number) : Option Int :=
  if numVal.above 100000000000 then dateOfNumber numVal else dateOfNumber (numVal.times 1000)

def readDate (payloadVal : Json) : Except JsError (Option (Option Int)) := do
  if payloadVal.truthy then
    match ← payloadVal.number t with
    | some numVal => return some (numericDate numVal)
    | none => return (← payloadVal.date t).map some
  else return none

def parseTolerantDate (payloadVal : Json) (dbEventTime : Option Int) (requestReceivedAt : Int) :
    Except JsError (Option Int) := do
  match ← readDate t payloadVal with
  | some date => return date
  | none => return some (dbEventTime.getD requestReceivedAt)

def snapshotField (snapshot : Fields) (key : String) : Json := orElse (snapshot.lookup key) .null

def buildNormalizedEvent (rawEvent : IoTDeviceEvent) (now : Int) : Except JsError NormalizedEvent := do
  let source := rawEvent.source
  let devicePersonId ← extractField source devicePersonIdKeys
  let devicePersonName ← extractField source devicePersonNameKeys
  let devicePersonCode ← extractField source devicePersonCodeKeys
  let similarity ← similarityOf t (← extractField source similarityKeys)
  let eventTimeVal ← extractField source eventTimeKeys
  let requestReceivedAt := rawEvent.payloadJson.receivedAt.getD now
  let finalEventTime ← parseTolerantDate t eventTimeVal rawEvent.eventTime requestReceivedAt
  let eventTime ← toISOString finalEventTime
  let snapshot := rawEvent.payloadJson.deviceSnapshot.getD []
  let fileMetadata := rawEvent.payloadJson.fileMetadata.getD []
  return {
    rawEventId := rawEvent.id
    eventType := rawEvent.eventType
    recognitionResult := if rawEvent.eventType = .faceVerify then .recognized else .stranger
    deviceId := rawEvent.deviceId
    deviceCode := snapshotField snapshot "device_code"
    deviceType := snapshotField snapshot "device_type"
    roomId := snapshotField snapshot "room_id"
    devicePersonId := devicePersonId
    devicePersonCode := devicePersonCode
    devicePersonName := devicePersonName
    eventTime := eventTime
    receivedAt := requestReceivedAt
    similarity := similarity
    confidenceScore := similarity
    hasImage := 0 < fileMetadata.length
    fileCount := fileMetadata.length
    fileMetadata := fileMetadata
    normalizedAt := now }

/-- `skipped` leaves the row as it is; what is saved is the row that is returned. -/
inductive NormalizeResult where
  | rawEventNotFound
  | skipped
  | saved (event : IoTDeviceEvent)

def IoTDeviceEvent.normalized (event : IoTDeviceEvent) (normalizedEvent : NormalizedEvent) :
    IoTDeviceEvent :=
  { event with
    payloadJson := { event.payloadJson with normalizedEvent := some normalizedEvent }
    processedStatus := .processed
    errorMessage := none }

/-- `message` is the text of an error of the engine, with what looks like a secret masked. -/
def normalizeRawEvent (message : JsError → String) (found : Option IoTDeviceEvent) (now : Int) :
    NormalizeResult :=
  match found with
  | none => .rawEventNotFound
  | some event =>
    if event.processedStatus ≠ .received then .skipped
    else if event.eventType ≠ .faceVerify ∧ event.eventType ≠ .faceStranger then
      .saved { event with
        processedStatus := .ignored
        errorMessage := some "Unsupported event type for normalization" }
    else
      match buildNormalizedEvent t event now with
      | .ok normalizedEvent => .saved (event.normalized normalizedEvent)
      | .error e => .saved { event with
          processedStatus := .failed
          errorMessage := some (message e) }

end Normalization

end DeviceEvents
