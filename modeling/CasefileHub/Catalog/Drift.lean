import CasefileHub.Catalog
/-!
# Drift between declared records and registered methods

Records are compared in their order, each name once; methods without a record follow in ascending
order. Axes are compared as terms. Other texts are compared without blanks around the declared one
and without case, and an empty module or function declares nothing. Permissions count as a
multiset; where these differ, their texts are compared like the others.
-/

namespace CasefileHub

/-- What is wrong with a record by itself. -/
inductive RecordFault where
  | repeated
  | terms (unknown : List UnknownTerm)
deriving DecidableEq, Repr

def RecordFault.issues : RecordFault → List String
  | .repeated => ["declared more than once"]
  | .terms us => us.map UnknownTerm.message

inductive Discrepancy where
  | declaredOnly (method : String)
  | registeredOnly (method : String)
  | fieldMismatch (method field declared registered : String)
  | invalidRecord (method : String) (fault : RecordFault)
deriving DecidableEq, Repr

namespace Discrepancy

def message : Discrepancy → String
  | .declaredOnly method => "'" ++ method ++ "' is declared but not registered"
  | .registeredOnly method => "'" ++ method ++ "' is registered but not declared"
  | .fieldMismatch method field declared registered =>
    "'" ++ method ++ "'." ++ field ++ ": declared '" ++ declared ++ "', registered '" ++
      registered ++ "'"
  | .invalidRecord method fault =>
    "'" ++ method ++ "' is invalid: " ++ Text.join "; " fault.issues

def toJson : Discrepancy → Json
  | .declaredOnly method => .obj [("kind", .str "declared_only"), ("method", .str method)]
  | .registeredOnly method => .obj [("kind", .str "registered_only"), ("method", .str method)]
  | .fieldMismatch method field declared registered =>
    .obj [("declared", .str declared), ("field", .str field), ("kind", .str "field_mismatch"),
      ("method", .str method), ("registered", .str registered)]
  | .invalidRecord method fault =>
    .obj [("issues", .strings fault.issues), ("kind", .str "invalid_record"),
      ("method", .str method)]

end Discrepancy

namespace CapabilityRecord

/-- A declared text agrees with a registered one. -/
def agrees (declared registered : String) : Bool :=
  Text.sameIgnoringCase (Text.trim declared) registered

def axisMismatches (r : CapabilityRecord) (declared : Classification) (m : Method) :
    List Discrepancy :=
  (Axis.all.filter fun a => declared.text a != m.classification.text a).map fun a =>
    .fieldMismatch r.name a.name (r.text a) (m.classification.text a)

/-- The mismatch of a field, unless the texts agree. -/
def textMismatch (r : CapabilityRecord) (field declared registered : String) :
    List Discrepancy :=
  if agrees declared registered then [] else [.fieldMismatch r.name field declared registered]

/-- Permissions in ascending order. -/
def sorted (permissions : List String) : List String :=
  permissions.mergeSort (fun a b => decide (a ≤ b))

def permissionMismatches (r : CapabilityRecord) (m : Method) : List Discrepancy :=
  let declared := sorted r.requiredPermissions
  let registered := sorted m.rules.requiredPermissions
  if declared = registered then []
  else
    r.textMismatch "required_permissions" (Text.join "," declared) (Text.join "," registered)

/-- The fields in which a record and a registered method differ. -/
def mismatches (r : CapabilityRecord) (declared : Classification) (m : Method) :
    List Discrepancy :=
  r.axisMismatches declared m ++
  r.textMismatch "service" r.service m.owner.service ++
  (if r.module.isEmpty then [] else r.textMismatch "module" r.module m.owner.module) ++
  (if r.function.isEmpty then [] else r.textMismatch "function" r.function m.owner.function) ++
  r.textMismatch "request_model" r.requestModel m.requestModel ++
  r.textMismatch "response_model" r.responseModel m.responseModel ++
  r.permissionMismatches m

/-- The discrepancies of the first record of its name. -/
def discrepancies (registered : Registry Method) (r : CapabilityRecord) : List Discrepancy :=
  match r.classification with
  | .error us => [.invalidRecord r.name (.terms us)]
  | .ok c =>
    match registered.get? r.name with
    | none => [.declaredOnly r.name]
    | some m => r.mismatches c m

end CapabilityRecord

namespace Discrepancy

/-- The discrepancies of records, given the names before them. -/
def ofRecords (registered : Registry Method) (seen : List String) :
    List CapabilityRecord → List Discrepancy
  | [] => []
  | r :: rest =>
    if seen.contains r.name then
      .invalidRecord r.name .repeated :: ofRecords registered seen rest
    else r.discrepancies registered ++ ofRecords registered (r.name :: seen) rest

/-- Every discrepancy between declared records and registered methods. -/
def between (declared : List CapabilityRecord) (registered : Registry Method) :
    List Discrepancy :=
  ofRecords registered [] declared ++
    (registered.names.filter fun n => !(declared.map (·.name)).contains n).map .registeredOnly

/-- In strict mode, fails with all discrepancies. -/
def enforce (strict : Bool) (ds : List Discrepancy) : Except HubError Unit :=
  if strict && !ds.isEmpty then
    .error (.inconsistent ("capability drift: " ++ Text.join "; " (ds.map message)))
  else .ok ()

end Discrepancy

end CasefileHub
