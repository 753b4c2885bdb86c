import OpenDSLite.RequestIngress

/-!
# Where READ_STRING ends

`READ_STRING` copies a string without its terminator and advances by the length it then finds in
the destination. Two runs of the same reads into the same destinations, which differ in what these
held before, stay together exactly as long as every string read finds a NUL in both right behind
the bytes it copies.
-/

namespace OpenDSLite

open ByteOrder ByteArea

inductive TwoContents
  | word (v₁ v₂ : UInt16)
  | dword (v₁ v₂ : UInt64)
  | float (v₁ v₂ : UInt32)
  | byte (v₁ v₂ : UInt8)
  | string (v₁ v₂ : List UInt8) (same : v₁.length = v₂.length)
  | raw (v₁ v₂ : List UInt8) (same : v₁.length = v₂.length) (l₁ l₂ : Int16)

namespace TwoContents

def first : TwoContents → Destination
  | word v _ => .word v
  | dword v _ => .dword v
  | float v _ => .float v
  | byte v _ => .byte v
  | string v _ _ => .string v
  | raw v _ _ l _ => .raw v l

def second : TwoContents → Destination
  | word _ v => .word v
  | dword _ v => .dword v
  | float _ v => .float v
  | byte _ v => .byte v
  | string _ v _ => .string v
  | raw _ v _ _ l => .raw v l

end TwoContents

/-- What a read shows apart from its destination: the number returned and the buffer left. -/
def Destination.progress (P : Platform) (d : Destination) (b : CRequestBuffer) :
    Option (ℤ × CRequestBuffer) :=
  (d.read P b).map fun r => (r.1, r.2.2)

/-- The read leaves the string at `head` in the destination and advances behind its terminator. -/
def StringExact (b : CRequestBuffer) (value : List UInt8) : Prop :=
  ∃ s ret value' b', b.buffer.cstring b.head.toNat = some s ∧
    readString value b = some (ret, value', b') ∧ cstringOf value' = some s ∧
    b' = { b with head := b'.head } ∧ b'.head.toNat = b.head.toNat + s.val.length + 1 ∧
    ret = b'.head.toNat

/-- The string at `head` is terminated, and so is the destination right behind it. -/
def TerminatedAt (b : CRequestBuffer) (value : List UInt8) : Prop :=
  ∃ s, b.buffer.cstring b.head.toNat = some s ∧ value[s.val.length]? = some 0

theorem cstring_length_lt {n : ℕ} (a : ByteArea n) (off : ℕ) (s : CString)
    (h : a.cstring off = some s) : off + s.val.length < n := by
  have hn := a.length_bytes
  unfold ByteArea.cstring cstringOf at h
  split_ifs at h with hm
  have hs : s.val = (a.bytes.drop off).takeWhile (· != 0) :=
    (congrArg Subtype.val (Option.some.inj h)).symm
  have hlt : s.val.length < (a.bytes.drop off).length := by
    refine lt_of_le_of_ne (hs ▸ (List.takeWhile_prefix _).length_le) (fun he => ?_)
    have hself : s.val = a.bytes.drop off := by
      rw [hs] at he ⊢
      exact (List.takeWhile_prefix _).eq_of_length he
    exact s.property (hself ▸ hm)
  rw [List.length_drop] at hlt
  omega

theorem stringExact_iff (b : CRequestBuffer) (value : List UInt8)
    (hguard : b.head.toNat + 1 ≤ b.length.toNat) :
    StringExact b value ↔ TerminatedAt b value := by
  constructor
  · rintro ⟨s, ret, value', b', hs, hrun, hvalue, -⟩
    refine ⟨s, hs, ?_⟩
    rw [readString, if_pos hguard, hs] at hrun
    simp only [Option.bind_eq_bind, Option.bind_some] at hrun
    obtain ⟨copied, hcopy, hrun⟩ := Option.bind_eq_some_iff.mp hrun
    obtain ⟨found, -, hrun⟩ := Option.bind_eq_some_iff.mp hrun
    obtain ⟨-, hrun⟩ := Prod.mk.inj (Option.some.inj hrun)
    obtain rfl : copied = value' := (Prod.mk.inj hrun).1
    unfold copyOver at hcopy
    split_ifs at hcopy
    rwa [← Option.some.inj hcopy, cstringOf_append_iff, List.head?_drop] at hvalue
  · rintro ⟨s, hs, hend⟩
    have hroom : s.val.length ≤ value.length := by
      have hlt := (List.getElem?_eq_some_iff.mp hend).1
      omega
    have hvalue : cstringOf (s.val ++ value.drop s.val.length) = some s := by
      rw [cstringOf_append_iff, List.head?_drop]
      exact hend
    have hlt := cstring_length_lt b.buffer b.head.toNat s hs
    have hhead : (b.head + UInt16.ofNat s.val.length + 1).toNat =
        b.head.toNat + s.val.length + 1 := by
      have hm := maxRtpMsgSize_eq
      rw [UInt16.toNat_add, UInt16.toNat_add, UInt16.toNat_ofNat']
      change ((b.head.toNat + s.val.length % 2 ^ 16) % 2 ^ 16 + 1) % 2 ^ 16 = _
      omega
    refine ⟨s, _, _, { b with head := b.head + UInt16.ofNat s.val.length + 1 }, hs, ?_, hvalue,
      rfl, hhead, rfl⟩
    rw [readString, if_pos hguard, hs]
    simp only [copyOver, if_pos hroom, hvalue, Option.bind_eq_bind, Option.bind_some]

def twoReads (P : Platform) (s : CRequestBuffer × CRequestBuffer) (d : TwoContents) :
    Except Unit (CRequestBuffer × CRequestBuffer) :=
  match d.first.progress P s.1, d.second.progress P s.2 with
  | some r₁, some r₂ => .ok (r₁.2, r₂.2)
  | _, _ => .error ()

/-- Both runs meet the call in the same buffer and make the same progress; where a string is read,
it is the one at `head` in both. -/
def ReadsAlike (P : Platform) (s : CRequestBuffer × CRequestBuffer) (d : TwoContents) : Prop :=
  s.1 = s.2 ∧ d.first.progress P s.1 = d.second.progress P s.2 ∧
    match d with
    | .string v₁ v₂ _ => s.1.head.toNat < s.1.length.toNat →
        StringExact s.1 v₁ ∧ StringExact s.1 v₂
    | _ => True

/-- A string read finds both contents of its destination terminated right behind the string. -/
def DestinationsEnd (s : CRequestBuffer × CRequestBuffer) (d : TwoContents) : Prop :=
  match d with
  | .string v₁ v₂ _ => s.1.head.toNat < s.1.length.toNat →
      TerminatedAt s.1 v₁ ∧ TerminatedAt s.1 v₂
  | _ => True

theorem readField_progress {α : Type} (size : ℕ) (decode : List UInt8 → α) (v₁ v₂ : α)
    (b : CRequestBuffer) : (readField size decode v₁ b).map (fun r => (r.1, r.2.2)) =
      (readField size decode v₂ b).map (fun r => (r.1, r.2.2)) := by
  unfold readField
  split_ifs
  · rfl
  · rfl

theorem readRaw_progress (P : Platform) (v₁ v₂ : List UInt8) (h : v₁.length = v₂.length)
    (l₁ l₂ : Int16) (b : CRequestBuffer) :
    (readRaw P v₁ l₁ b).map (fun r => (r.1, r.2.2.2)) =
      (readRaw P v₂ l₂ b).map (fun r => (r.1, r.2.2.2)) := by
  unfold readRaw
  split_ifs
  · cases b.buffer.load b.head.toNat 2 with
    | none => rfl
    | some bs =>
      simp only [Option.bind_eq_bind, Option.bind_some]
      cases b.buffer.load (b.head + 2).toNat
          (P.toSizeT (ntohs (loadUInt16 bs)).toInt16.toInt) with
      | none => rfl
      | some data =>
        simp only [Option.bind_some, copyOver, h]
        split_ifs
        · rfl
        · rfl
  · rfl

theorem progress_eq_of_exact (P : Platform) (b : CRequestBuffer) (v₁ v₂ : List UInt8)
    (h₁ : StringExact b v₁) (h₂ : StringExact b v₂) :
    (Destination.string v₁).progress P b = (Destination.string v₂).progress P b := by
  obtain ⟨s, ret₁, value₁, b₁, hs₁, hrun₁, -, hb₁, hhead₁, rfl⟩ := h₁
  obtain ⟨s', ret₂, value₂, b₂, hs₂, hrun₂, -, hb₂, hhead₂, rfl⟩ := h₂
  obtain rfl := Option.some.inj (hs₁.symm.trans hs₂)
  have hhead : b₁.head = b₂.head := UInt16.toNat_inj.mp (hhead₁.trans hhead₂.symm)
  have hb : b₁ = b₂ := by rw [hb₁, hb₂, hhead]
  simp only [Destination.progress, Destination.read, hrun₁, hrun₂, Option.map_some, hb]

theorem readsAlike_iff (P : Platform) (s : CRequestBuffer × CRequestBuffer) (d : TwoContents)
    (h : s.1 = s.2) : ReadsAlike P s d ↔ DestinationsEnd s d := by
  obtain ⟨b, b'⟩ := s
  obtain rfl : b = b' := h
  cases d with
  | string v₁ v₂ same =>
    simp only [ReadsAlike, DestinationsEnd, true_and]
    by_cases hguard : b.head.toNat + 1 ≤ b.length.toNat
    · rw [← stringExact_iff b v₁ hguard, ← stringExact_iff b v₂ hguard]
      exact ⟨fun h => h.2, fun h => ⟨progress_eq_of_exact P b v₁ v₂ (h hguard).1 (h hguard).2, h⟩⟩
    · refine iff_of_true ⟨?_, fun hlt => absurd hlt hguard⟩ (fun hlt => absurd hlt hguard)
      simp only [TwoContents.first, TwoContents.second, Destination.progress, Destination.read,
        readString, if_neg hguard, Option.map_some]
  | raw v₁ v₂ same l₁ l₂ =>
    refine iff_of_true ⟨rfl, ?_, trivial⟩ trivial
    have hraw := readRaw_progress P v₁ v₂ same l₁ l₂ b
    simpa only [TwoContents.first, TwoContents.second, Destination.progress, Destination.read,
      Option.map_map, Function.comp_def] using hraw
  | word v₁ v₂ | dword v₁ v₂ | float v₁ v₂ | byte v₁ v₂ =>
    refine iff_of_true ⟨rfl, ?_, trivial⟩ trivial
    simp only [TwoContents.first, TwoContents.second, Destination.progress, Destination.read,
      Option.map_map, Function.comp_def]
    exact readField_progress _ _ v₁ v₂ b

theorem same_buffer_step (P : Platform) (s t : CRequestBuffer × CRequestBuffer) (d : TwoContents)
    (h : ReadsAlike P s d) (hstep : twoReads P s d = .ok t) : t.1 = t.2 := by
  obtain ⟨-, hprogress, -⟩ := h
  unfold twoReads at hstep
  rw [← hprogress] at hstep
  cases hr : d.first.progress P s.1 with
  | none => simp [hr] at hstep
  | some r =>
    simp only [hr] at hstep
    rw [← Except.ok.inj hstep]

/-- Reads of a request are the same whatever their destinations held, string by string and offset
by offset, exactly when no string read finds more in a destination than it copies there. -/
theorem reads_alike_iff (P : Platform) (b : CRequestBuffer) (ds : List TwoContents) :
    PartialRun.Along (twoReads P) (ReadsAlike P) (b, b) ds ↔
      PartialRun.Along (twoReads P) DestinationsEnd (b, b) ds :=
  PartialRun.along_iff_along (fun s => s.1 = s.2) _ _ (fun s d h => readsAlike_iff P s d h)
    (fun s d t h hend hstep => same_buffer_step P s t d ((readsAlike_iff P s d h).2 hend) hstep)
    (b, b) ds rfl

def stringRequest : CRequestBuffer := loadedRequest [0, 7, 0x78, 0]

def usedDestination : TwoContents := .string [0, 0, 0, 0] [0x61, 0x62, 0x63, 0] rfl

/-- Over the old string the read leaves `xbc` and passes the end of the body. -/
theorem old_string_shows :
    stringRequest.head < stringRequest.length ∧
    (∀ x ∈ stringRequest.buffer.bytes.drop stringRequest.length.toNat, x = 0) ∧
    (∃ b', readString [0x61, 0x62, 0x63, 0] stringRequest =
      some (6, [0x78, 0x62, 0x63, 0], b')) ∧
    ¬ PartialRun.Along (twoReads .linux) (ReadsAlike .linux) (stringRequest, stringRequest)
      [usedDestination] := by
  refine ⟨by decide, by decide +kernel, ⟨_, rfl⟩, fun h => ?_⟩
  obtain ⟨-, hexact⟩ := h.1.2.2 (by decide)
  obtain ⟨s, hs, hend⟩ := (stringExact_iff _ _ (by decide)).1 hexact
  obtain rfl := Option.some.inj hs
  exact absurd hend (by decide +kernel)

end OpenDSLite
