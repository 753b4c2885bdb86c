import OpenDSLite.Buffers

/-!
# The user application

`device_server_main` is supplied by the user and reaches the library through the `READ_*` and
`WRITE_*` calls only. An `Application` is one activation of it: a tree of such calls in which the
continuation sees what each call returned and what a read left in its destination.
-/

namespace OpenDSLite

inductive WriteCall
  | word (value : UInt16)
  | dword (value : UInt64)
  | float (value : UInt32)
  | byte (value : UInt8)
  | string (value : CString)
  | raw (value : List UInt8) (len : Int16) (readable : len.toInt ≤ value.length)
  deriving DecidableEq

def WriteCall.run (P : Platform) : WriteCall → CResponseBuffer → Option (ℤ × CResponseBuffer)
  | word value => writeWord value
  | dword value => writeDword P value
  | float value => writeFloat value
  | byte value => writeByte value
  | string value => writeString value
  | raw value len _ => writeRaw P value len

/-- A destination variable together with its contents. -/
inductive Destination
  | word (value : UInt16)
  | dword (value : UInt64)
  | float (value : UInt32)
  | byte (value : UInt8)
  | string (value : List UInt8)
  | raw (value : List UInt8) (len : Int16)
  deriving DecidableEq

def Destination.read (P : Platform) (d : Destination) (b : CRequestBuffer) :
    Option (ℤ × Destination × CRequestBuffer) :=
  match d with
  | word value => (readWord value b).map fun (ret, v, b') => (ret, word v, b')
  | dword value => (readDword P value b).map fun (ret, v, b') => (ret, dword v, b')
  | float value => (readFloat value b).map fun (ret, v, b') => (ret, float v, b')
  | byte value => (readByte value b).map fun (ret, v, b') => (ret, byte v, b')
  | string value => (readString value b).map fun (ret, v, b') => (ret, string v, b')
  | raw value len => (readRaw P value len b).map fun (ret, v, l, b') => (ret, raw v l, b')

inductive Application
  | done
  | write (c : WriteCall) (next : ℤ → Application)
  | read (d : Destination) (next : ℤ → Destination → Application)

def Application.run (P : Platform) :
    Application → CRequestBuffer → CResponseBuffer → Option (CRequestBuffer × CResponseBuffer)
  | done, req, resp => some (req, resp)
  | write c next, req, resp =>
      (c.run P resp).bind fun (ret, resp') => (next ret).run P req resp'
  | read d next, req, resp =>
      (d.read P req).bind fun (ret, d', req') => (next ret d').run P req' resp

/-- The application that makes the given calls whatever they return. -/
def Application.ofWrites : List WriteCall → Application
  | [] => done
  | c :: cs => write c (fun _ => ofWrites cs)

/-- The writers other than `WRITE_RAW`. -/
def WriteCall.IsTyped : WriteCall → Prop
  | raw _ _ _ => False
  | _ => True

instance : DecidablePred WriteCall.IsTyped := fun c => by
  cases c <;> unfold WriteCall.IsTyped <;> infer_instance

/-- Calls made one after another on a response buffer, with what each returned. -/
def writeAll (P : Platform) :
    List WriteCall → CResponseBuffer → Option (List ℤ × CResponseBuffer)
  | [], b => some ([], b)
  | c :: cs, b => (c.run P b).bind fun (ret, b') =>
      (writeAll P cs b').map fun (rets, b'') => (ret :: rets, b'')

def readAll (P : Platform) :
    List Destination → CRequestBuffer → Option (List ℤ × List Destination × CRequestBuffer)
  | [], b => some ([], [], b)
  | d :: ds, b => (d.read P b).bind fun (ret, d', b') =>
      (readAll P ds b').map fun (rets, ds', b'') => (ret :: rets, d' :: ds', b'')

theorem ofWrites_run (P : Platform) (cs : List WriteCall) (req : CRequestBuffer)
    (resp : CResponseBuffer) :
    (Application.ofWrites cs).run P req resp =
      (writeAll P cs resp).map (fun r => (req, r.2)) := by
  induction cs generalizing resp with
  | nil => rfl
  | cons c cs ih =>
    simp only [Application.ofWrites, Application.run, writeAll]
    cases c.run P resp with
    | none => rfl
    | some r => simp only [Option.bind_some, ih, Option.map_map, Function.comp_def]

theorem writeAll_cons_eq_some_iff (P : Platform) (c : WriteCall) (cs : List WriteCall)
    (b b' : CResponseBuffer) (rets : List ℤ) :
    writeAll P (c :: cs) b = some (rets, b') ↔ ∃ ret rest b₁, c.run P b = some (ret, b₁) ∧
      writeAll P cs b₁ = some (rest, b') ∧ rets = ret :: rest := by
  simp only [writeAll, Option.bind_eq_some_iff, Option.map_eq_some_iff, Prod.exists,
    Prod.mk.injEq]
  constructor
  · rintro ⟨ret, b₁, hc, rest, b₂, hr, rfl, rfl⟩
    exact ⟨ret, rest, b₁, hc, hr, rfl⟩
  · rintro ⟨ret, rest, b₁, hc, hr, rfl⟩
    exact ⟨ret, b₁, hc, rest, b', hr, rfl, rfl⟩

theorem readAll_cons_eq_some_iff (P : Platform) (d : Destination) (ds ds' : List Destination)
    (b b' : CRequestBuffer) (rets : List ℤ) :
    readAll P (d :: ds) b = some (rets, ds', b') ↔ ∃ ret rest d' rest' b₁,
      d.read P b = some (ret, d', b₁) ∧ readAll P ds b₁ = some (rest, rest', b') ∧
        rets = ret :: rest ∧ ds' = d' :: rest' := by
  simp only [readAll, Option.bind_eq_some_iff, Option.map_eq_some_iff, Prod.exists,
    Prod.mk.injEq]
  constructor
  · rintro ⟨ret, d', b₁, hd, rest, rest', b₂, hr, rfl, rfl, rfl⟩
    exact ⟨ret, rest, d', rest', b₁, hd, hr, rfl, rfl⟩
  · rintro ⟨ret, rest, d', rest', b₁, hd, hr, rfl, rfl⟩
    exact ⟨ret, d', b₁, hd, rest, rest', b', hr, rfl, rfl, rfl⟩

theorem readAll_append (P : Platform) (ds es : List Destination) (b : CRequestBuffer) :
    readAll P (ds ++ es) b = (readAll P ds b).bind fun (rets, ds', b') =>
      (readAll P es b').map fun (rets', es', b'') => (rets ++ rets', ds' ++ es', b'') := by
  induction ds generalizing b with
  | nil =>
    cases h : readAll P es b with
    | none => simp [readAll, h]
    | some r => simp [readAll, h]
  | cons d ds ih =>
    simp only [List.cons_append, readAll]
    cases d.read P b with
    | none => rfl
    | some r =>
      simp only [Option.bind_some, ih]
      cases readAll P ds r.2.2 with
      | none => rfl
      | some q =>
        simp only [Option.bind_some, Option.map_some]
        cases readAll P es q.2.2 with
        | none => rfl
        | some u => rfl

end OpenDSLite
