import ObjectStore.Simulation.Server

/-!
A bucket without a wire: what each operation returns and leaves behind when it is done at once, in
terms of names, objects and one counter. No request, no URL, no JSON and no upload session is part of it.
-/

namespace ObjectStore.Atomic

/-! ### What callers see -/

def refusal (status : Nat) (message : String) : Error :=
  (ServiceError.mk status message (ErrorEnvelope.toJson ⟨UInt16.ofNat status, message⟩).compact).classify

def missing (bucket name : String) : Error :=
  refusal Status.notFound ("No such object: " ++ bucket ++ "/" ++ name)

def view (bucket name : String) (object : StoredObject) : Except Error Object :=
  (Object.ofResource bucket (object.toResource bucket name)).mapError .decode

def checkName (name : String) : Except Error Unit :=
  (checkSegmentName name).mapError .invalidRequest

/-! ### Operations -/

def stat (store : Store) (bucket name : String) : Except Error Object := do
  checkName name
  match store.find? bucket name with
  | some object => view bucket name object
  | none => .error (missing bucket name)

def read (store : Store) (bucket : String) (request : ReadRequest) : Except Error Content := do
  checkName request.name
  match store.find? bucket request.name with
  | some object =>
      if request.generation = 0 ∨ request.generation.toInt = object.generation then
        .ok (.ofBytes object.contents)
      else .error (missing bucket request.name)
  | none => .error (missing bucket request.name)

def delete (store : Store) (bucket name : String) : Except Error Unit × Store :=
  match checkName name, store.find? bucket name with
  | .error error, _ => (.error error, store)
  | .ok (), some _ => (.ok (), store.remove bucket name)
  | .ok (), none => (.error (missing bucket name), store)

/-- A page of the entries from the cursor on; one that is no number is the beginning. -/
def list (store : Store) (bucket : String) (query : Query) : Ended (Except Error Page) :=
  let all := store.entries bucket query.stem query.delimiter
  let offset := (Decimal.unsigned? 64 query.cursor).getD 0
  let count := if query.maxResults = 0 then Store.defaultPageSize else query.maxResults.toNat
  let shown := (all.drop offset).take count
  if Width.bound 64 ≤ offset + count then .broken Simulation.positionOverflow
  else .finished do
    let results ← ((shown.filterMap (Store.Entry.item? bucket)).mapM (Object.ofResource bucket)).mapError .decode
    let next := if offset + count < all.length then some { query with cursor := toString (offset + count) } else none
    pure ⟨results, shown.filterMap Store.Entry.group?, next⟩

def applyField (update : FieldUpdate) (old : String) : String :=
  match update with
  | .keep => old
  | .clear => ""
  | .set value => value

def applyChange (metadata : Dictionary String) (change : String × Option String) : Dictionary String :=
  match change.2 with
  | some value => metadata.insert change.1 value
  | none => metadata.erase change.1

def applyUpdate (update : UpdateRequest) (object : StoredObject) : StoredObject :=
  { object with
    contentType := applyField update.contentType object.contentType
    contentEncoding := applyField update.contentEncoding object.contentEncoding
    contentLanguage := applyField update.contentLanguage object.contentLanguage
    cacheControl := applyField update.cacheControl object.cacheControl
    metadata := match update.metadata with
      | some changes => changes.toList.foldl applyChange object.metadata
      | none => object.metadata }

def updated (update : UpdateRequest) (object : StoredObject) (now : Timestamp) : StoredObject :=
  { applyUpdate update object with metageneration := object.metageneration + 1, updated := now }

def update (store : Store) (now : Timestamp) (bucket : String) (request : UpdateRequest) :
    Except Error Object × Store :=
  match checkName request.name, store.find? bucket request.name with
  | .error error, _ => (.error error, store)
  | .ok (), none => (.error (missing bucket request.name), store)
  | .ok (), some object =>
      if (applyUpdate request object).contentType = "" then
        (.error (refusal Status.badRequest "Required: contentType"), store)
      else (view bucket request.name (updated request object now),
        store.put bucket request.name (updated request object now))

def checkCreate (request : CreateRequest) : Except Error Unit := do
  (validateName request.attributes.name).mapError .invalidRequest
  let contentType := request.attributes.effectiveContentType
  if !Headers.isValidValue (Bytes.ofText contentType) then throw (.invalidRequest (.contentType contentType))

def newObject (attributes : Attributes) (contents : Bytes) (generation : Nat) (now : Timestamp) : StoredObject :=
  { contentType := attributes.effectiveContentType
    contentLanguage := attributes.contentLanguage
    contentEncoding := attributes.contentEncoding
    cacheControl := attributes.cacheControl
    metadata := attributes.metadata
    acl := attributes.acl
    contents, generation
    metageneration := 1
    created := now
    updated := now }

def admits (precondition : Option Int64) (current : Nat) : Bool :=
  precondition.all fun expected => expected.toInt == (current : Int)

def create (store : Store) (now : Timestamp) (bucket : String) (request : CreateRequest) :
    Except Error Object × Store :=
  let name := request.attributes.name
  match checkCreate request, request.contents.collect with
  | .error error, _ => (.error error, store)
  | .ok (), .error failure => (.error (.transport failure.toTransportError), store)
  | .ok (), .ok contents =>
      if admits request.precondition (store.generationOf bucket name) then
        let object := newObject request.attributes contents store.nextGeneration now
        (view bucket name object,
          { store.put bucket name object with nextGeneration := store.nextGeneration + 1 })
      else (.error (refusal Status.preconditionFailed "Precondition Failed"), store)

end ObjectStore.Atomic
