import OpenDSLite.CarefulApplications
import OpenDSLite.DeviceNames
import OpenDSLite.Dsapp
import OpenDSLite.Initialisation
import OpenDSLite.OnlineService

/-!
# The sample device server

`device_server_main` of the sample unpacks two numbers and answers with them, their sum and a
greeting. It works on the packed structs; `Ds.application` is the tree of calls these make. On the
wide builds the structs do two things more: two numbers in a request overrun the struct they are
read into, and a first number alone may leave its sign in the second. Signed addition wraps on all
builds.
-/

namespace OpenDSLite

open ByteOrder ByteArea

def greeting : CString :=
  ⟨[72, 101, 108, 108, 111, 44, 32, 68, 84, 80, 76, 105, 110, 107, 33], by decide⟩

def helloName : CString :=
  ⟨[104, 101, 108, 108, 111, 46, 115, 97, 109, 112, 108, 101, 46, 99, 111, 109], by decide⟩

namespace Ds

/-- The assignments to `resp` between the unpacking and the packing. -/
def fillResponse (d1 d2 : Int32) (resp : CResponseIndex) : Option CResponseIndex := do
  let resp ← resp.store offsetD1 (leBytes 4 d1.toUInt32.toNat)
  let resp ← resp.store offsetD2 (leBytes 4 d2.toUInt32.toNat)
  let resp ← resp.store offsetR1 (leBytes 4 (d1 + d2).toUInt32.toNat)
  resp.store offsetR2 (greeting.val ++ [0])

def deviceServerMain (P : Platform) (id : Int16) (request : CRequestBuffer)
    (response : CResponseBuffer) : Option (CRequestBuffer × CResponseBuffer) :=
  if id = 1 then do
    let (req, request) ← cRequestIndexUnpack P (zeros 10) request
    let resp ← fillResponse (int32At req offsetD1) (int32At req offsetD2) (zeros 270)
    let response ← cResponseIndexPackup P resp response
    some (request, response)
  else some (request, response)

def number : Destination → Int32
  | .dword value => value.toUInt32.toInt32
  | _ => 0

/-- The number two `READ_DWORD`s left in the second field of the struct. When the second of them is
refused the field holds what the first covered of it. -/
def second (ret : ℤ) : Destination → Destination → Int32
  | .dword first, .dword value =>
      if ret = -1 then (first >>> 32).toUInt32.toInt32 else value.toUInt32.toInt32
  | _, _ => 0

def answerCalls (d1 d2 : Int32) : List WriteCall :=
  (responseCalls d1 d2 (d1 + d2) greeting).map TypedValue.call

/-- The calls `device_server_main` makes through the two structs. -/
def application (id : Int16) : Application :=
  if id = 1 then
    .read (.dword 0) fun _ d1 => .read (.dword 0) fun ret d2 =>
      .ofWrites (answerCalls (number d1) (second ret d1 d2))
  else .done

/-- `main` looks at nothing that `DTPLink_DSInit` returns. -/
def main (env : Environment) (P : Platform) (polls : List RecvFrom) : Except World World := do
  let (_, w) ← env.dtplinkDSInit (some helloName) (some defaultDNS) staticWorld
  runLoop P (fun _ id => application id) (enterLoop w) polls

end Ds

/-- The number in the field behind one that was read into a cleared struct. -/
def signWord (P : Platform) (v : UInt32) : Int32 :=
  if P.DeclaresHtonl ∨ v.toNat < 2 ^ 31 then 0 else -1

theorem highHalf_assigned (P : Platform) (v : UInt32) :
    (P.assigned v >>> 32).toUInt32.toInt32 = signWord P v := by
  have hlt := v.toNat_lt
  have hhalf : (P.assigned v >>> 32).toUInt32.toNat = (P.assigned v).toNat / 2 ^ 32 := by
    have h64 := (P.assigned v).toNat_lt
    rw [UInt64.toNat_toUInt32, UInt64.toNat_shiftRight]
    change (P.assigned v).toNat >>> 32 % 2 ^ 32 = _
    rw [Nat.shiftRight_eq_div_pow]
    omega
  unfold signWord
  split_ifs with hsign
  · have hzero : (P.assigned v >>> 32).toUInt32 = 0 := by
      apply UInt32.toNat_inj.mp
      rw [hhalf, Platform.assigned]
      split_ifs with hdecl
      · rw [UInt32.toNat_toUInt64, Nat.div_eq_of_lt hlt]
        rfl
      · rw [toNat_toULong32, if_pos (hsign.resolve_left hdecl), Nat.mul_zero, Nat.add_zero,
          Nat.div_eq_of_lt hlt]
        rfl
    rw [hzero]
    rfl
  · have hones : (P.assigned v >>> 32).toUInt32 = 0xFFFFFFFF := by
      apply UInt32.toNat_inj.mp
      rw [hhalf, Platform.assigned, if_neg (not_or.mp hsign).1, toNat_toULong32,
        if_neg (not_or.mp hsign).2]
      change _ = 2 ^ 32 - 1
      omega
    rw [hones]
    rfl

theorem readDword_cases (P : Platform) (req : CRequestBuffer) :
    readDword P 0 req = none ∨ ∃ ret v req', readDword P 0 req = some (ret, P.assigned v, req') ∧
      (req.head.toNat + P.sizeofULong32 ≤ req.length.toNat → ret ≠ -1 ∧
        req'.head.toNat = req.head.toNat + P.sizeofULong32 ∧ req'.length = req.length) ∧
      (¬ req.head.toNat + P.sizeofULong32 ≤ req.length.toNat → ret = -1 ∧ v = 0 ∧ req' = req) := by
  by_cases hguard : req.head.toNat + P.sizeofULong32 ≤ req.length.toNat
  · have hread : readDword P 0 req =
        (req.buffer.load req.head.toNat P.sizeofULong32).bind fun bs =>
          some (((req.head + UInt16.ofNat P.sizeofULong32).toNat : ℤ),
            P.assigned (ntohl (UInt64.ofNat (ofLeBytes bs)).toUInt32),
            { req with head := req.head + UInt16.ofNat P.sizeofULong32 }) := if_pos hguard
    have hhead : (req.head + UInt16.ofNat P.sizeofULong32).toNat =
        req.head.toNat + P.sizeofULong32 := by
      have hlt := req.length.toNat_lt
      rw [UInt16.toNat_add, UInt16.toNat_ofNat']
      omega
    rw [hread]
    cases req.buffer.load req.head.toNat P.sizeofULong32 with
    | none => exact Or.inl rfl
    | some bs =>
      exact Or.inr ⟨_, _, _, rfl, fun _ => ⟨by omega, hhead, rfl⟩, fun h => absurd hguard h⟩
  · exact Or.inr ⟨-1, 0, req, (if_neg hguard).trans (by rw [assigned_zero]),
      fun h => absurd h hguard, fun _ => ⟨rfl, rfl, rfl⟩⟩

/-- The request holds two numbers and the second has no room in the struct. -/
def Overruns (P : Platform) (req : CRequestBuffer) : Prop :=
  P ≠ .windows ∧ req.head.toNat + 16 ≤ req.length.toNat

instance (P : Platform) (req : CRequestBuffer) : Decidable (Overruns P req) :=
  inferInstanceAs (Decidable (_ ∧ _))

theorem overruns_iff (P : Platform) (req : CRequestBuffer) :
    Overruns P req ↔ 10 < offsetD2 + P.sizeofULong32 ∧
      req.head.toNat + 2 * P.sizeofULong32 ≤ req.length.toNat := by
  cases P with
  | windows => exact iff_of_false (fun h => h.1 rfl) (fun h => absurd h.1 (by decide))
  | linux | linuxDeclared => exact and_congr_left' (iff_of_true (by decide) (by decide))

/-- The ways the unpacking of a request struct ends. -/
inductive RequestUnpacked (P : Platform) (req : CRequestBuffer) :
    Option (CRequestIndex × CRequestBuffer) → Prop
  | filled (r₁ r₂ : ℤ) (v₁ v₂ : UInt32) (req₁ req₂ : CRequestBuffer) (message : CRequestIndex)
      (h₁ : readDword P 0 req = some (r₁, P.assigned v₁, req₁))
      (h₂ : readDword P 0 req₁ = some (r₂, P.assigned v₂, req₂))
      (hd1 : int32At message offsetD1 = v₁.toInt32)
      (hd2 : int32At message offsetD2 = if r₂ = -1 then signWord P v₁ else v₂.toInt32)
      (hover : ¬ Overruns P req) : RequestUnpacked P req (some (message, req₂))
  | overrun (hover : Overruns P req) : RequestUnpacked P req none
  | firstOutside (h₁ : readDword P 0 req = none) : RequestUnpacked P req none
  | secondOutside (r₁ : ℤ) (v₁ : UInt32) (req₁ : CRequestBuffer)
      (h₁ : readDword P 0 req = some (r₁, P.assigned v₁, req₁)) (h₂ : readDword P 0 req₁ = none) :
      RequestUnpacked P req none

theorem readDwordInto_none {n : ℕ} (P : Platform) (off : ℕ) (message : ByteArea n)
    (req : CRequestBuffer) (h : readDword P 0 req = none) :
    readDwordInto P off message req = none := by
  simp only [readDwordInto, h, Option.bind_eq_bind, Option.bind_none]

theorem int32At_second (P : Platform) (message : CRequestIndex) (v : UInt32)
    (h : message.bytes.drop offsetD1 = leBytes 4 v.toNat ++
      (List.replicate (P.sizeofULong32 - 4) (P.highByte v) ++
        (zeros 10).bytes.drop (offsetD1 + P.sizeofULong32))) :
    int32At message offsetD2 = signWord P v := by
  have hdrop : message.bytes.drop offsetD2 = List.replicate (P.sizeofULong32 - 4) (P.highByte v) ++
      (zeros 10).bytes.drop (offsetD1 + P.sizeofULong32) := by
    change message.bytes.drop (offsetD1 + 4) = _
    rw [← List.drop_drop, h, List.drop_left' (length_leBytes 4 _)]
  have hfill : message.bytes.drop offsetD2 = List.replicate 4 (P.highByte v) := by
    rw [hdrop]
    cases P with
    | windows => rw [Platform.highByte, if_pos (Or.inl (by decide))]; rfl
    | linux | linuxDeclared => rfl
  rw [int32At, hfill, signWord, Platform.highByte]
  split_ifs <;> rfl

theorem requestUnpacked (P : Platform) (req : CRequestBuffer) :
    RequestUnpacked P req (cRequestIndexUnpack P (zeros 10) req) := by
  obtain ⟨k, hk, hk4⟩ := sizeofULong32_eq P
  rcases readDword_cases P req with h₁ | ⟨r₁, v₁, req₁, h₁, htaken₁, hrefused₁⟩
  · rw [cRequestIndexUnpack, readDwordInto_none P offsetD1 _ req h₁]
    exact .firstOutside h₁
  by_cases hg₁ : req.head.toNat + P.sizeofULong32 ≤ req.length.toNat
  · obtain ⟨hr₁, hhead₁, hlen₁⟩ := htaken₁ hg₁
    obtain ⟨m₁, hm₁, hd₁, -⟩ := readDwordInto_stored P offsetD1 (zeros 10) req req₁ r₁ v₁ h₁ hr₁
      (show 2 + P.sizeofULong32 ≤ 10 by omega)
    have hfirst : int32At m₁ offsetD1 = v₁.toInt32 := int32At_of_drop m₁ offsetD1 v₁ _ hd₁
    have hunpack : cRequestIndexUnpack P (zeros 10) req = readDwordInto P offsetD2 m₁ req₁ := by
      rw [cRequestIndexUnpack, hm₁]
      rfl
    rw [hunpack]
    rcases readDword_cases P req₁ with h₂ | ⟨r₂, v₂, req₂, h₂, htaken₂, hrefused₂⟩
    · rw [readDwordInto_none P offsetD2 m₁ req₁ h₂]
      exact .secondOutside r₁ v₁ req₁ h₁ h₂
    have hover := overruns_iff P req
    by_cases hg₂ : req₁.head.toNat + P.sizeofULong32 ≤ req₁.length.toNat
    · obtain ⟨hr₂, -, -⟩ := htaken₂ hg₂
      rw [hhead₁, hlen₁] at hg₂
      by_cases hroom : offsetD2 + P.sizeofULong32 ≤ 10
      · obtain ⟨m₂, hm₂, hd₂, hkeep⟩ :=
          readDwordInto_stored P offsetD2 m₁ req₁ req₂ r₂ v₂ h₂ hr₂ hroom
        rw [hm₂]
        refine .filled r₁ r₂ v₁ v₂ req₁ req₂ m₂ h₁ h₂ ?_ ?_ (fun h => ?_)
        · rw [hkeep offsetD1 (by decide), hfirst]
        · rw [if_neg hr₂]
          exact int32At_of_drop m₂ offsetD2 v₂ _ hd₂
        · exact absurd (hover.1 h).1 (by omega)
      · rw [readDwordInto_overruns P offsetD2 m₁ req₁ req₂ r₂ _ h₂ hr₂ (by omega)]
        exact .overrun (hover.2 ⟨by omega, by omega⟩)
    · obtain ⟨rfl, rfl, rfl⟩ := hrefused₂ hg₂
      rw [readDwordInto_refused P offsetD2 m₁ req₂ req₂ _ h₂]
      refine .filled r₁ (-1) v₁ 0 req₂ req₂ m₁ h₁ h₂ hfirst ?_ (fun h => hg₂ ?_)
      · rw [if_pos rfl]
        exact int32At_second P m₁ v₁ hd₁
      · have htwo := (hover.1 h).2
        rw [hhead₁, hlen₁]
        omega
  · obtain ⟨rfl, rfl, rfl⟩ := hrefused₁ hg₁
    have hzero : ∀ off, int32At (zeros 10) off = 0 := fun off =>
      int32At_clear (zeros 10) off (10 - off) List.drop_replicate
    have hunpack : cRequestIndexUnpack P (zeros 10) req₁ = some (zeros 10, req₁) := by
      rw [cRequestIndexUnpack, readDwordInto_refused P offsetD1 _ req₁ req₁ _ h₁]
      exact readDwordInto_refused P offsetD2 _ req₁ req₁ _ h₁
    rw [hunpack]
    refine .filled (-1) (-1) 0 0 req₁ req₁ (zeros 10) h₁ h₁ (hzero _) ?_ (fun h => hg₁ ?_)
    · rw [hzero, if_pos rfl, signWord, if_pos (Or.inr (by decide))]
    · have htwo := ((overruns_iff P req₁).1 h).2
      omega

theorem fillResponse_spec (d1 d2 : Int32) : ∃ resp, Ds.fillResponse d1 d2 (zeros 270) = some resp ∧
    int32At resp offsetD1 = d1 ∧ int32At resp offsetD2 = d2 ∧ int32At resp offsetR1 = d1 + d2 ∧
    resp.cstring offsetR2 = some greeting := by
  have hfield : ∀ (m m' : CResponseIndex) (off : ℕ) (value : Int32),
      m.store off (leBytes 4 value.toUInt32.toNat) = some m' → int32At m' off = value := by
    intro m m' off value h
    have hdrop := drop_store h
    exact int32At_of_drop m' off value.toUInt32 _ hdrop
  have hroom : ∀ (m : CResponseIndex) (off : ℕ) (value : Int32), off ≤ 10 →
      ∃ m', m.store off (leBytes 4 value.toUInt32.toNat) = some m' := fun m off value h =>
    m.store_of_fits off _ (by rw [length_leBytes]; omega)
  obtain ⟨m₁, h₁⟩ := hroom (zeros 270) offsetD1 d1 (by decide)
  obtain ⟨m₂, h₂⟩ := hroom m₁ offsetD2 d2 (by decide)
  obtain ⟨m₃, h₃⟩ := hroom m₂ offsetR1 (d1 + d2) (by decide)
  obtain ⟨m₄, h₄⟩ := m₃.store_of_fits offsetR2 (greeting.val ++ [0]) (by decide)
  have hkeep : ∀ {m m' : CResponseIndex} {off : ℕ} {src : List UInt8}, m.store off src = some m' →
      ∀ k, k + 4 ≤ off → int32At m' k = int32At m k := fun h k hk =>
    int32At_congr _ _ k (block_store_before h k 4 hk)
  refine ⟨m₄, ?_, ?_, ?_, ?_, ?_⟩
  · simp only [Ds.fillResponse, h₁, h₂, h₃, h₄, Option.bind_eq_bind, Option.bind_some]
  · rw [hkeep h₄ offsetD1 (by decide), hkeep h₃ offsetD1 (by decide), hkeep h₂ offsetD1 (by decide)]
    exact hfield _ _ _ _ h₁
  · rw [hkeep h₄ offsetD2 (by decide), hkeep h₃ offsetD2 (by decide)]
    exact hfield _ _ _ _ h₂
  · rw [hkeep h₄ offsetR1 (by decide)]
    exact hfield _ _ _ _ h₃
  · rw [ByteArea.cstring, drop_store h₄, List.append_assoc]
    exact cstringOf_append greeting _

theorem application_run (P : Platform) (req req₁ req₂ : CRequestBuffer) (resp : CResponseBuffer)
    (r₁ r₂ : ℤ) (v₁ v₂ : UInt32) (h₁ : readDword P 0 req = some (r₁, P.assigned v₁, req₁))
    (h₂ : readDword P 0 req₁ = some (r₂, P.assigned v₂, req₂)) :
    (Ds.application 1).run P req resp =
      ((writeAll P (Ds.answerCalls v₁.toInt32
        (if r₂ = -1 then signWord P v₁ else v₂.toInt32)) resp).map Prod.snd).map
          fun resp' => (req₂, resp') := by
  rw [Ds.application, if_pos rfl]
  simp only [Application.run, Destination.read, h₁, h₂, Option.map_some, Option.bind_some,
    ofWrites_run, Ds.number, Ds.second, toUInt32_assigned, highHalf_assigned, Option.map_map]
  rfl

theorem application_run_outside (P : Platform) (req : CRequestBuffer) (resp : CResponseBuffer)
    (h : readDword P 0 req = none ∨ ∃ r₁ value req₁,
      readDword P 0 req = some (r₁, value, req₁) ∧ readDword P 0 req₁ = none) :
    (Ds.application 1).run P req resp = none := by
  rw [Ds.application, if_pos rfl]
  rcases h with h₁ | ⟨r₁, value, req₁, h₁, h₂⟩
  · simp only [Application.run, Destination.read, h₁, Option.map_none, Option.bind_none]
  · simp only [Application.run, Destination.read, h₁, h₂, Option.map_some, Option.map_none,
      Option.bind_some, Option.bind_none]

theorem deviceServerMain_overruns (P : Platform) (req : CRequestBuffer) (resp : CResponseBuffer)
    (hover : Overruns P req) : Ds.deviceServerMain P 1 req resp = none := by
  have hunpacked := requestUnpacked P req
  rw [Ds.deviceServerMain, if_pos rfl]
  generalize cRequestIndexUnpack P (zeros 10) req = result at hunpacked ⊢
  cases hunpacked with
  | filled r₁ r₂ v₁ v₂ req₁ req₂ message h₁ h₂ hd1 hd2 hinside => exact absurd hover hinside
  | overrun | firstOutside | secondOutside => rfl

theorem deviceServerMain_inside (P : Platform) (id : Int16) (req : CRequestBuffer)
    (resp : CResponseBuffer) (hinside : ¬ (id = 1 ∧ Overruns P req)) :
    Ds.deviceServerMain P id req resp = (Ds.application id).run P req resp := by
  by_cases hid : id = 1
  · subst hid
    have hunpacked := requestUnpacked P req
    rw [Ds.deviceServerMain, if_pos rfl]
    generalize cRequestIndexUnpack P (zeros 10) req = result at hunpacked ⊢
    cases hunpacked with
    | filled r₁ r₂ v₁ v₂ req₁ req₂ message h₁ h₂ hd1 hd2 =>
      obtain ⟨m, hm, hm1, hm2, hmr, hmt⟩ :=
        fillResponse_spec v₁.toInt32 (if r₂ = -1 then signWord P v₁ else v₂.toInt32)
      rw [application_run P req req₁ req₂ resp r₁ r₂ v₁ v₂ h₁ h₂]
      simp only [Option.bind_eq_bind, Option.bind_some, hd1, hd2, hm,
        cResponseIndexPackup_eq P m greeting hmt, hm1, hm2, hmr, Ds.answerCalls]
      cases (writeAll P _ resp).map Prod.snd with
      | none => rfl
      | some resp' => rfl
    | overrun hover => exact absurd ⟨rfl, hover⟩ hinside
    | firstOutside h₁ =>
      rw [application_run_outside P req resp (Or.inl h₁)]
      rfl
    | secondOutside r₁ v₁ req₁ h₁ h₂ =>
      rw [application_run_outside P req resp (Or.inr ⟨r₁, _, req₁, h₁, h₂⟩)]
      rfl
  · rw [Ds.deviceServerMain, if_neg hid, Ds.application, if_neg hid]
    rfl

/-- The structs make the calls of the application, whatever the buffers are, except that on the
wide builds a request of two numbers is not survived. -/
theorem deviceServerMain_run (P : Platform) (id : Int16) (req : CRequestBuffer)
    (resp : CResponseBuffer) : Ds.deviceServerMain P id req resp =
      if id = 1 ∧ Overruns P req then none else (Ds.application id).run P req resp := by
  split_ifs with hover
  · obtain ⟨rfl, hover⟩ := hover
    exact deviceServerMain_overruns P req resp hover
  · exact deviceServerMain_inside P id req resp hover

/-- The number at `off` of a body, zero when the body is over before its end. -/
def operand (P : Platform) (body : List UInt8) (off : ℕ) : Int32 :=
  if off + P.sizeofULong32 ≤ body.length then
    (ntohl (loadUInt32 ((body.drop off).take 4))).toInt32
  else 0

/-- What the second field of a request struct holds of a body: its number, or what the first number
covers of the field when the body is over before. -/
def secondOperand (P : Platform) (body : List UInt8) : Int32 :=
  if 2 + 2 * P.sizeofULong32 ≤ body.length then operand P body (2 + P.sizeofULong32)
  else signWord P (operand P body 2).toUInt32

/-- What stands behind the header of a reply to a body. -/
def Ds.response (P : Platform) (body : List UInt8) : List UInt8 :=
  beBytes 2 (requestId body).toNat ++
    if requestId body = 1 then
      images P (Ds.answerCalls (operand P body 2) (secondOperand P body))
    else []

/-- A number is read from the body as it stands there. -/
theorem readDword_reading (P : Platform) (body : List UInt8) (hbody : body.length < maxRtpMsgSize)
    (b : CRequestBuffer) (h : Reading body b) :
    ∃ ret v b', readDword P 0 b = some (ret, P.assigned v, b') ∧
      (ret = -1 ↔ body.length < b.head.toNat + P.sizeofULong32) ∧
      v.toInt32 = operand P body b.head.toNat ∧ Reading body b' ∧
      b'.head.toNat = if b.head.toNat + P.sizeofULong32 ≤ body.length then
        b.head.toNat + P.sizeofULong32 else b.head.toNat := by
  have hm := maxRtpMsgSize_eq
  obtain ⟨k, hk⟩ := h.filled
  obtain ⟨j, hj, hj4⟩ := sizeofULong32_eq P
  have hlen := h.length
  by_cases hguard : b.head.toNat + P.sizeofULong32 ≤ body.length
  · have hload : b.buffer.load b.head.toNat P.sizeofULong32 =
        some ((body.drop b.head.toNat).take P.sizeofULong32) := by
      rw [ByteArea.load, if_pos (by omega), hk, List.drop_append_of_le_length (by omega),
        List.take_append_of_le_length (by rw [List.length_drop]; omega)]
    have hread : readDword P 0 b =
        some (((b.head + UInt16.ofNat P.sizeofULong32).toNat : ℤ),
          P.assigned (ntohl (UInt64.ofNat (ofLeBytes
            ((body.drop b.head.toNat).take P.sizeofULong32))).toUInt32),
          { b with head := b.head + UInt16.ofNat P.sizeofULong32 }) := by
      rw [readDword, readField, if_pos (hlen ▸ hguard), hload]
      rfl
    have hhead := toNat_add_ofNat b P.sizeofULong32 (by omega) (by omega)
    refine ⟨_, _, _, hread, iff_of_false (by omega) (by omega), ?_, ⟨h.filled, hlen, ?_⟩, ?_⟩
    · rw [operand, if_pos hguard, toUInt32_ofLeBytes _ (by
        rw [List.length_take, List.length_drop]
        omega), List.take_take, Nat.min_eq_left (by omega)]
    · change (b.head + UInt16.ofNat P.sizeofULong32).toNat ≤ body.length + 1
      omega
    · rw [if_pos hguard]
      exact hhead
  · have hread : readDword P 0 b = some (-1, P.assigned 0, b) := by
      rw [assigned_zero]
      exact if_neg (hlen ▸ hguard)
    refine ⟨-1, 0, b, hread, iff_of_true rfl (by omega), ?_, h, (if_neg hguard).symm⟩
    rw [operand, if_neg hguard]
    rfl

theorem isTyped_answerCalls (d1 d2 : Int32) : ∀ c ∈ Ds.answerCalls d1 d2, c.IsTyped :=
  TypedValue.isTyped_of_mem_calls _

theorem length_answerCalls (P : Platform) (d1 d2 : Int32) :
    (images P (Ds.answerCalls d1 d2)).length = 3 * P.sizeofULong32 + 16 := by
  have hcalls : images P (Ds.answerCalls d1 d2) =
      typedImages P (responseCalls d1 d2 (d1 + d2) greeting) := rfl
  rw [hcalls, responseCalls, typedImages_append, List.length_append, length_numberCalls]
  rfl

theorem application_answers (P : Platform) (body : List UInt8) (hbody : body.length ≤ 252) :
    ∃ req resp, (Ds.application (requestId body).toInt16).run P (loadedRequest body)
        (echoedResponse (requestId body)) = some (req, resp) ∧ resp.length = resp.tail ∧
      Holds resp (Ds.response P body) := by
  have hm := maxRtpMsgSize_eq
  obtain ⟨j, hj, hj4⟩ := sizeofULong32_eq P
  have hholds := holds_echoedResponse (requestId body)
  by_cases hid : requestId body = 1
  · have hlen : 2 ≤ body.length := by
      by_contra hshort
      rw [requestId, if_neg hshort] at hid
      exact absurd hid (by decide)
    have hhead : (loadedRequest body).head.toNat = 2 := by
      rw [loadedRequest]
      simp only [if_pos hlen]
      rfl
    obtain ⟨r₁, v₁, b₁, h₁, -, hv₁, hreading₁, hhead₁⟩ := readDword_reading P body (by omega)
      (loadedRequest body) (reading_loadedRequest body (by omega))
    obtain ⟨r₂, v₂, b₂, h₂, hr₂, hv₂, -, -⟩ := readDword_reading P body (by omega) b₁ hreading₁
    rw [hhead] at hv₁ hhead₁
    have hsecond : (if r₂ = -1 then signWord P v₁ else v₂.toInt32) = secondOperand P body := by
      rw [secondOperand, ← hv₁, UInt32.toUInt32_toInt32]
      by_cases hguard : 2 + P.sizeofULong32 ≤ body.length
      · rw [if_pos hguard] at hhead₁
        rw [hhead₁] at hr₂ hv₂
        by_cases hboth : 2 + 2 * P.sizeofULong32 ≤ body.length
        · rw [if_neg (fun h => absurd (hr₂.1 h) (by omega)), if_pos hboth, hv₂]
        · rw [if_pos (hr₂.2 (by omega)), if_neg hboth]
      · rw [if_neg hguard] at hhead₁
        rw [hhead₁] at hr₂
        rw [if_pos (hr₂.2 (by omega)), if_neg (by omega)]
    have hsize := length_answerCalls P (operand P body 2) (secondOperand P body)
    obtain ⟨resp, hwrite, hl, hholds'⟩ := writeAll_fits P
      (responseCalls (operand P body 2) (secondOperand P body)
        (operand P body 2 + secondOperand P body) greeting) (echoedResponse (requestId body)) _
      hholds rfl (by
        change _ + (images P (Ds.answerCalls (operand P body 2) (secondOperand P body))).length ≤ _
        rw [hsize, length_beBytes]
        omega)
    refine ⟨b₂, resp, ?_, hl, ?_⟩
    · rw [hid] at hwrite ⊢
      rw [show (1 : UInt16).toInt16 = 1 from rfl,
        application_run P _ b₁ b₂ _ r₁ r₂ v₁ v₂ h₁ h₂, hv₁, hsecond, Ds.answerCalls, hwrite]
      rfl
    · rw [Ds.response, if_pos hid]
      exact hholds'
  · have hne : ¬ (requestId body).toInt16 = 1 := fun h => hid (congrArg Int16.toUInt16 h)
    refine ⟨_, _, by rw [Ds.application, if_neg hne]; rfl, rfl, ?_⟩
    rw [Ds.response, if_neg hid, List.append_nil]
    exact hholds

theorem responseTo_sample (P : Platform) (body : List UInt8) (hbody : body.length ≤ 252) :
    responseTo P Ds.application body = some (Ds.response P body) := by
  obtain ⟨req, resp, hrun, hl, hholds⟩ := application_answers P body hbody
  have htake : resp.buffer.bytes.take resp.length.toNat = Ds.response P body := by
    rw [hl, hholds.tail, hholds.filled.take]
  rw [responseTo, trace_run, hrun]
  exact congrArg some htake

theorem length_response (P : Platform) (body : List UInt8) : (Ds.response P body).length ≤ 42 := by
  obtain ⟨k, hk, hk4⟩ := sizeofULong32_eq P
  rw [Ds.response, List.length_append, length_beBytes]
  split_ifs with hid
  · rw [length_answerCalls]
    omega
  · rw [List.length_nil]
    omega

theorem replyTo_sample (P : Platform) (d : Datagram) (hid : d.IsDirect ∨ d.IsRelayed) :
    replyTo P Ds.application d = some (d.replyHeader ++ Ds.response P d.body) := by
  have hm := maxRtpMsgSize_eq
  have hsize := headerSize_le d
  have hlen := length_response P d.body
  rw [replyTo, responseTo_sample P d.body (length_body_le_252 d hid), Option.bind_some,
    if_pos (by omega)]

/-- What the sample sends when a poll finds it online. -/
def sampleAnswers (P : Platform) (name : CString) (r : RecvFrom) :
    List (List UInt8 × IPv4Address) :=
  match dtplinkRecv r with
  | none => []
  | some d =>
      if d.IsDirect ∨ d.IsRelayed then [(d.replyHeader ++ Ds.response P d.body, d.src)]
      else queryReply name d

/-- On the build of 32 bits the online sample runs until a data request comes without its header.
Up to there every data request gets its numbers, their sum and the greeting, or its bare identifier
when that is not 1. -/
theorem sample_run (w : World) (polls : List RecvFrom) (ho : w.ctx.mStatus = .online) :
    (∀ id req resp, Ds.deviceServerMain .windows id req resp =
      (Ds.application id).run .windows req resp) ∧
    ((∃ w', runLoop .windows (fun _ id => Ds.application id) w polls = .ok w') ↔
      ∀ r ∈ polls, HeaderComplete r) ∧
    ∀ w', runLoop .windows (fun _ id => Ds.application id) w polls = .ok w' →
      datagrams w'.log =
        (polls.flatMap (sampleAnswers .windows w.ctx.mID)).reverse ++ datagrams w.log := by
  have hservable : ∀ r, Servable .windows Ds.application r ↔ HeaderComplete r := by
    intro r
    constructor
    · exact fun h d hd hid => (h d hd hid).1
    · exact fun h d hd hid => ⟨h d hd hid, by rw [replyTo_sample .windows d hid]; rfl⟩
  have hanswers : answersTo .windows Ds.application w.ctx.mID =
      sampleAnswers .windows w.ctx.mID := by
    funext r
    unfold answersTo sampleAnswers
    cases dtplinkRecv r with
    | none => rfl
    | some d =>
      by_cases hid : d.IsDirect ∨ d.IsRelayed
      · simp only [if_pos hid, replyTo_sample .windows d hid]
        rfl
      · simp only [if_neg hid]
  refine ⟨fun id req resp => ?_, ?_, fun w' hrun => ?_⟩
  · exact deviceServerMain_inside .windows id req resp (fun h => absurd h.2.1 (by decide))
  · rw [online_run_ok_iff .windows Ds.application w polls ho]
    exact forall₂_congr fun r _ => hservable r
  · rw [online_run_sent .windows Ds.application w w' polls ho hrun, hanswers]

def sumRequest : Datagram :=
  ⟨sampleAddress, [queryDataToRemoteDS, space, 0, 1, 0, 0, 0, 2, 0, 0, 0, 3], by decide, by decide⟩

theorem sample_run_sumRequest :
    (∀ id req resp, Ds.deviceServerMain .windows id req resp =
      (Ds.application id).run .windows req resp) ∧
    ((∃ w', runLoop .windows (fun _ id => Ds.application id) onlineWorld
        [.data sumRequest.src sumRequest.bytes, .error] = .ok w') ↔
      ∀ r ∈ [RecvFrom.data sumRequest.src sumRequest.bytes, .error], HeaderComplete r) ∧
    ∀ w', runLoop .windows (fun _ id => Ds.application id) onlineWorld
        [.data sumRequest.src sumRequest.bytes, .error] = .ok w' →
      datagrams w'.log = ([RecvFrom.data sumRequest.src sumRequest.bytes, .error].flatMap
        (sampleAnswers .windows onlineWorld.ctx.mID)).reverse ++ datagrams onlineWorld.log :=
  sample_run onlineWorld _ rfl

theorem images_answerCalls (P : Platform) (d1 d2 : Int32) : images P (Ds.answerCalls d1 d2) =
    typedImages P (numberCalls d1 d2 (d1 + d2)) ++ writtenText P greeting := by
  have hfits : TextFits P greeting := by cases P <;> decide
  rw [writtenText, if_pos hfits]
  exact typedImages_append P (numberCalls d1 d2 (d1 + d2)) [.string greeting]

/-- A response to a request is unpacked by the struct it was packed with. The greeting is longer
than what a sign can cover. -/
theorem response_unpacked (P : Platform) (body : List UInt8) (hid : requestId body = 1) :
    ∃ message req', cResponseIndexUnpack P (zeros 270) (loadedRequest (Ds.response P body)) =
        some (message, req') ∧
      int32At message offsetD1 = operand P body 2 ∧
      int32At message offsetD2 = secondOperand P body ∧
      int32At message offsetR1 = operand P body 2 + secondOperand P body ∧
      message.cstring offsetR2 = some greeting ∧ req'.head = req'.length := by
  have hm := maxRtpMsgSize_eq
  have hlen := length_response P body
  have hresponse : Ds.response P body = beBytes 2 1 ++
      (typedImages P (numberCalls (operand P body 2) (secondOperand P body)
        (operand P body 2 + secondOperand P body)) ++ writtenText P greeting) := by
    rw [Ds.response, if_pos hid, images_answerCalls, hid]
    rfl
  have hfits : TextFits P greeting := by cases P <;> decide
  have hsurvives : TextSurvives P (operand P body 2 + secondOperand P body) greeting :=
    ⟨hfits, Or.inr (Or.inr (by decide))⟩
  have hlength := length_loadedRequest (Ds.response P body) (by omega)
  obtain ⟨k, hk⟩ := filled_holding (Ds.response P body) (show _ ≤ maxRtpMsgSize by omega)
  rw [hresponse] at hk hlength ⊢
  have hfacing : Facing (loadedRequest (beBytes 2 1 ++ (typedImages P
      (numberCalls (operand P body 2) (secondOperand P body)
        (operand P body 2 + secondOperand P body)) ++ writtenText P greeting)))
      (beBytes 2 1) _ (List.replicate k 0) :=
    ⟨by rw [← List.append_assoc]; exact hk, rfl, (hlength.trans List.length_append).ge⟩
  obtain ⟨message, req', hunpack, hd1, hd2, hr1, htext, hend, hhead⟩ :=
    cResponseIndexUnpack_written P _ _ _ greeting _ _ _ hfacing (hlength.trans List.length_append)
  refine ⟨message, req', hunpack, hd1, hd2, hr1, ?_, ?_⟩
  · rw [htext, (unpackedText_eq_iff P _ greeting).2 hsurvives]
  · apply UInt16.toNat_inj.mp
    rw [hhead hfits, (signBytes_eq_nil_iff P _ _).2 hsurvives.2, hend]
    rfl

/-- On every build a request that does not overrun its struct is answered with what
`device_server_main` leaves in the response buffer, and a receiver that unpacks it finds the two
numbers, their sum and the greeting. -/
theorem sample_answered (P : Platform) (w : World) (d : Datagram) (hs : w.ctx.mStatus = .online)
    (hdata : d.IsDirect ∨ d.IsRelayed) (hn : d.headerSize ≤ d.bytes.length)
    (hid : requestId d.body = 1) (hover : ¬ Overruns P (loadedRequest d.body)) :
    ∃ req resp message req',
      Ds.deviceServerMain P 1 (loadedRequest d.body) (echoedResponse 1) = some (req, resp) ∧
      (service P Ds.application d w).sent =
        [(d.replyHeader ++ resp.buffer.bytes.take resp.length.toNat, d.src)] ∧
      cResponseIndexUnpack P (zeros 270)
        (loadedRequest (resp.buffer.bytes.take resp.length.toNat)) = some (message, req') ∧
      int32At message offsetD1 = operand P d.body 2 ∧
      int32At message offsetD2 = secondOperand P d.body ∧
      int32At message offsetR1 = int32At message offsetD1 + int32At message offsetD2 ∧
      message.cstring offsetR2 = some greeting ∧ req'.head = req'.length := by
  obtain ⟨req, resp, hrun, hl, hholds⟩ :=
    application_answers P d.body (length_body_le_252 d hdata)
  have htake : resp.buffer.bytes.take resp.length.toNat = Ds.response P d.body := by
    rw [hl, hholds.tail, hholds.filled.take]
  obtain ⟨message, req', hunpack, hd1, hd2, hr1, htext, hend⟩ := response_unpacked P d.body hid
  refine ⟨req, resp, message, req', ?_, ?_, ?_, hd1, hd2, by rw [hr1, hd1, hd2], htext, hend⟩
  · rw [deviceServerMain_inside P 1 _ _ (fun h => hover h.2)]
    rw [hid] at hrun
    exact hrun
  · rw [service_data P Ds.application w d hs hdata hn, replyTo_sample P d hdata, htake]
    rfl
  · rw [htake]
    exact hunpack

/-- The number -2 alone, in the eight bytes that a `ULong32` of the wide builds has. -/
def loneRequest : Datagram :=
  ⟨sampleAddress, [queryDataToRemoteDS, space, 0, 1, 255, 255, 255, 254, 0, 0, 0, 0], by decide,
    by decide⟩

example : secondOperand .linux loneRequest.body = -1 := by decide

theorem sample_answered_loneRequest : ∃ req resp message req',
    Ds.deviceServerMain .linux 1 (loadedRequest loneRequest.body) (echoedResponse 1) =
      some (req, resp) ∧
    (service .linux Ds.application loneRequest onlineWorld).sent =
      [(loneRequest.replyHeader ++ resp.buffer.bytes.take resp.length.toNat, loneRequest.src)] ∧
    cResponseIndexUnpack .linux (zeros 270)
      (loadedRequest (resp.buffer.bytes.take resp.length.toNat)) = some (message, req') ∧
    int32At message offsetD1 = operand .linux loneRequest.body 2 ∧
    int32At message offsetD2 = secondOperand .linux loneRequest.body ∧
    int32At message offsetR1 = int32At message offsetD1 + int32At message offsetD2 ∧
    message.cstring offsetR2 = some greeting ∧ req'.head = req'.length :=
  sample_answered .linux onlineWorld loneRequest rfl (Or.inl (Or.inl rfl)) (by decide)
    (by decide +kernel) (fun h => absurd h.2 (by decide +kernel))

theorem careful_application (P : Platform) (id : Int16) :
    (Ds.application id).Careful P responseRoom := by
  unfold Ds.application
  split_ifs with hid
  · refine ⟨trivial, fun _ d1 => ⟨trivial, fun ret d2 => ?_⟩⟩
    have hsize := length_answerCalls P (Ds.number d1) (Ds.second ret d1 d2)
    have hroom : 3 * P.sizeofULong32 + 16 ≤ responseRoom := by cases P <;> decide
    exact careful_ofWrites P _ (isTyped_answerCalls _ _) _ (hsize.trans_le hroom)
  · trivial

/-- A loop entered without a successful initialisation stays where it is and says nothing. -/
theorem startup_idle (P : Platform) (main : DeviceServer) (w : World) (polls : List RecvFrom)
    (hs : w.ctx.mStatus = .startup) : ∃ w', runLoop P main w polls = .ok w' ∧
      w'.ctx.mStatus = .startup ∧ w'.log = w.log := by
  induction polls generalizing w with
  | nil => exact ⟨w, rfl, hs, rfl⟩
  | cons r rest ih =>
    obtain ⟨u, hu, hus, hul⟩ : ∃ u, dtplinkDSLoop P main w r = .ok u ∧
        u.ctx.mStatus = .startup ∧ u.log = w.log := by
      cases hr : dtplinkRecv r with
      | none =>
        refine ⟨w.addRecvRetryCount, ?_, hs, rfl⟩
        simp only [dtplinkDSLoop, hr, onFailedPoll, World.addRecvRetryCount, hs]
      | some d =>
        refine ⟨w, ?_, hs, rfl⟩
        simp only [dtplinkDSLoop, hr, onDatagram, hs]
    obtain ⟨w', hrun, hs', hlog⟩ := ih u hus
    exact ⟨w', (PartialRun.run_cons_ok _ w u w' r rest hu).2 hrun, hs', hlog.trans hul⟩

theorem nameFits_of_init (env : Environment) (w : World)
    (h : env.dtplinkDSInit (some helloName) (some defaultDNS) staticWorld = .ok (true, w)) :
    (enterLoop w).NameFits := by
  by_cases hnet : env.initNetwork = true
  · have houtcome := env.initOutcome (some helloName) (some defaultDNS) staticWorld hnet
    rw [h] at houtcome
    cases houtcome with
    | initialised s hs addr hne hr hend =>
      have hname : (enterLoop (pingCenterServer (Environment.ready
          (env.configured helloName addr staticWorld)))).ctx.mID = helloName := by
        change (pingCenterServer _).ctx.mID = helloName
        rw [pingCenterServer_ctx]
        rfl
      rw [nameFits_iff, hname]
      decide
  · rw [Environment.dtplinkDSInit, if_neg hnet] at h
    exact absurd (Prod.mk.inj (Except.ok.inj h)).1 (by decide)

theorem silent_of_init (env : Environment) (w : World)
    (h : env.dtplinkDSInit (some helloName) (some defaultDNS) staticWorld = .ok (false, w)) :
    w.ctx.mStatus = .startup ∧ w.log = [] := by
  by_cases hnet : env.initNetwork = true
  · have houtcome := env.initOutcome (some helloName) (some defaultDNS) staticWorld hnet
    rw [h] at houtcome
    exact ⟨houtcome.failed.status, houtcome.failed.silent⟩
  · rw [Environment.dtplinkDSInit, if_neg hnet] at h
    obtain rfl := (Prod.mk.inj (Except.ok.inj h)).2
    exact ⟨rfl, rfl⟩

/-- The sample program on the build of 32 bits. Where its initialisation succeeds it runs until an
online server is given a data request without its header. Where it fails the program polls on, never
sends anything and never gets further. It has no result where no host entry is found. -/
theorem main_verdict (env : Environment) (polls : List RecvFrom) :
    (match env.dtplinkDSInit (some helloName) (some defaultDNS) staticWorld with
    | .ok (true, w) => (∃ w', Ds.main env .windows polls = .ok w') ↔
        PartialRun.Along (dtplinkDSLoop .windows fun _ id => Ds.application id) Wellformed
          (enterLoop w) polls
    | .ok (false, _) => ∃ w', Ds.main env .windows polls = .ok w' ∧
        w'.ctx.mStatus = .startup ∧ w'.log = []
    | .error w => Ds.main env .windows polls = .error w) ∧
    ((∃ w, env.dtplinkDSInit (some helloName) (some defaultDNS) staticWorld = .error w) ↔
      env.initNetwork = true ∧ env.gethostbyname (dnsName (some defaultDNS)) = none) := by
  refine ⟨?_, env.init_error_iff helloName (some defaultDNS) staticWorld
    ⟨by decide, by decide⟩⟩
  unfold Ds.main
  cases hinit : env.dtplinkDSInit (some helloName) (some defaultDNS) staticWorld with
  | error w => rfl
  | ok result =>
    obtain ⟨ret, w⟩ := result
    cases ret with
    | true =>
      have hstarted : Started (enterLoop w) := ⟨env, _, _, _, w, hinit, rfl⟩
      exact (run_ok_iff_sound .windows _ (enterLoop w) polls hstarted).trans
        (along_sound_iff .windows _ (fun _ id => careful_application .windows id) (enterLoop w)
          (nameFits_of_init env w hinit) polls)
    | false =>
      obtain ⟨hs, hlog⟩ := silent_of_init env w hinit
      obtain ⟨w', hrun, hs', hlog'⟩ := startup_idle .windows (fun _ id => Ds.application id)
        (enterLoop w) polls hs
      exact ⟨w', hrun, hs', hlog'.trans hlog⟩

end OpenDSLite
