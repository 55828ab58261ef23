import KvsWebrtc.Lib.Printing
import KvsWebrtc.Lib.Region
import KvsWebrtc.Sdp.Description
import KvsWebrtc.Sdp.Numbers

/-!
# Serialising a session description (`Sdp/Serialize.c`)

Each emitter prints one line at the cursor, with the room that is left as its size, and adds the
line's length to the total.  Most then check that the line fitted; those of time descriptions and
attributes do not.  The output also keeps what was written where, and from which totals the room was
computed.  Every character array is read up to its NUL.

Principal results:

* `emits_serialize` — the description is one line after the other, each with its kind;
* `serialize_safe_iff` — when a buffer is never left and success means that the text fits.
-/

namespace KvsWebrtc.Sdp

open CString Printing Regions

/-! ## Emitters -/

inductive SerializeStatus where
  | SUCCESS
  | BUFFER_TOO_SMALL
  deriving DecidableEq, Repr

/-- `ppOutputData`, `pTotalWritten` and `pBufferSize`; the cursor is `none` for a `NULL` buffer.
`spans` is what was written so far and `totals` are those the room was computed from. -/
structure Output where
  curr : Option Nat
  totalWritten : UINT32
  bufferSize : UINT32
  memory : Memory
  spans : List Region
  totals : List UINT32

/-- The call of `SNPRINTF`. -/
def Output.print (o : Output) (line : Bytes) : Output :=
  match o.curr with
  | none => o
  | some off =>
    let text := snprintf (o.bufferSize - o.totalWritten).toNat line
    { o with
      memory := store o.memory off text
      spans := o.spans ++ [⟨off, text.length⟩]
      totals := o.totals ++ [o.totalWritten] }

def Output.advance (o : Output) (currentWriteSize : UINT32) : Output :=
  { o with
    totalWritten := o.totalWritten + currentWriteSize
    curr := o.curr.map (· + currentWriteSize.toNat) }

abbrev Emitter := Output → SerializeStatus × Output

/-- A line, and whether its emitter checks that it fitted. -/
structure Line where
  checked : Bool
  text : Bytes

def emit (line : Line) : Emitter := fun o =>
  let currentWriteSize := BitVec.ofNat 32 line.text.length
  let o := o.print line.text
  if line.checked = true ∧ o.curr ≠ none ∧ o.bufferSize - o.totalWritten < currentWriteSize then
    (.BUFFER_TOO_SMALL, o)
  else (.SUCCESS, o.advance currentWriteSize)

def skip : Emitter := fun o => (.SUCCESS, o)

/-- `CHK_STATUS` of both. -/
def Emitter.andThen (f g : Emitter) : Emitter := fun o =>
  match f o with
  | (.SUCCESS, o) => g o
  | failed => failed

def forEach {α : Type} (f : α → Emitter) : List α → Emitter
  | [] => skip
  | a :: as => (f a).andThen (forEach f as)

/-! ## The lines -/

def versionLine (version : UINT64) : Bytes :=
  SDP_VERSION_MARKER ++ printU64 version ++ SDP_LINE_SEPARATOR

def originLine (o : SdpOrigin) : Bytes :=
  SDP_ORIGIN_MARKER ++ o.userName.text ++ ascii " " ++ printU64 o.sessionId ++ ascii " " ++
    printU64 o.sessionVersion ++ ascii " " ++ o.sdpConnectionInformation.networkType.text ++
    ascii " " ++ o.sdpConnectionInformation.addressType.text ++ ascii " " ++
    o.sdpConnectionInformation.connectionAddress.text ++ SDP_LINE_SEPARATOR

def textLine (marker text : Bytes) : Bytes := marker ++ text ++ SDP_LINE_SEPARATOR

def timeLine (t : SdpTimeDescription) : Bytes :=
  SDP_TIME_DESCRIPTION_MARKER ++ printU64 t.startTime ++ ascii " " ++ printU64 t.stopTime ++
    SDP_LINE_SEPARATOR

def attributeLine (a : SdpAttributes) : Bytes :=
  if a.attributeValue.text = [] then
    SDP_ATTRIBUTE_MARKER ++ a.attributeName.text ++ SDP_LINE_SEPARATOR
  else
    SDP_ATTRIBUTE_MARKER ++ a.attributeName.text ++ ascii ":" ++ a.attributeValue.text ++
      SDP_LINE_SEPARATOR

def connectionLine (c : SdpConnectionInformation) : Bytes :=
  SDP_CONNECTION_INFORMATION_MARKER ++ c.networkType.text ++ ascii " " ++ c.addressType.text ++
    ascii " " ++ c.connectionAddress.text ++ SDP_LINE_SEPARATOR

def serializeVersion (version : UINT64) : Emitter := emit ⟨true, versionLine version⟩

/-- All four texts of the origin have to be there. -/
def SdpOrigin.Complete (o : SdpOrigin) : Prop :=
  o.userName.text ≠ [] ∧ o.sdpConnectionInformation.networkType.text ≠ [] ∧
    o.sdpConnectionInformation.addressType.text ≠ [] ∧
    o.sdpConnectionInformation.connectionAddress.text ≠ []

instance (o : SdpOrigin) : Decidable o.Complete := inferInstanceAs (Decidable (_ ∧ _))

def serializeOrigin (o : SdpOrigin) : Emitter :=
  if o.Complete then emit ⟨true, originLine o⟩ else skip

def serializeSessionName (sessionName : Bytes) : Emitter :=
  if sessionName ≠ [] then emit ⟨true, textLine SDP_SESSION_NAME_MARKER sessionName⟩ else skip

def serializeTimeDescription (t : SdpTimeDescription) : Emitter := emit ⟨false, timeLine t⟩

def serializeAttribute (a : SdpAttributes) : Emitter := emit ⟨false, attributeLine a⟩

def serializeMediaName (mediaName : Bytes) : Emitter :=
  if mediaName ≠ [] then emit ⟨true, textLine SDP_MEDIA_NAME_MARKER mediaName⟩ else skip

def serializeMediaConnectionInformation (c : SdpConnectionInformation) : Emitter :=
  if c.networkType.text ≠ [] then emit ⟨true, connectionLine c⟩ else skip

def serializeMedia (m : SdpMediaDescription) : Emitter :=
  (serializeMediaName m.mediaName.text).andThen
    ((serializeMediaConnectionInformation m.sdpConnectionInformation).andThen
      (forEach serializeAttribute (m.sdpAttributes.firsts m.mediaAttributesCount.toNat)))

/-- The lines of a description, in order. -/
def serializeLines (d : SessionDescription) : Emitter :=
  (serializeVersion d.version).andThen
    ((serializeOrigin d.sdpOrigin).andThen
      ((serializeSessionName d.sessionName.text).andThen
        ((forEach serializeTimeDescription
            (d.sdpTimeDescription.firsts d.timeDescriptionCount.toNat)).andThen
          ((forEach serializeAttribute
              (d.sdpAttributes.firsts d.sessionAttributesCount.toNat)).andThen
            (forEach serializeMedia d.media)))))

structure Serialized where
  status : SerializeStatus
  sdpBytesLength : UINT32
  output : Output

/-- `sdpBytes` is `none` for `NULL`, and otherwise the memory the buffer starts. -/
def serializeSessionDescription (d : SessionDescription) (sdpBytes : Option Memory)
    (bufferSize : UINT32) : Serialized :=
  let start : Output := ⟨sdpBytes.map fun _ => 0, 0, bufferSize, sdpBytes.getD fun _ => 0, [], []⟩
  match serializeLines d start with
  -- the NUL behind the last line
  | (.SUCCESS, o) => ⟨.SUCCESS, o.totalWritten + 1, o⟩
  | (status, o) => ⟨status, o.totalWritten, o⟩

/-! ## The description as a list of lines -/

def emitAll : List Line → Emitter := forEach emit

/-- The emitter prints these lines. -/
def Emits (f : Emitter) (ls : List Line) : Prop := f = emitAll ls

theorem andThen_skip (f : Emitter) : f.andThen skip = f := by
  funext o
  unfold Emitter.andThen
  split
  · rename_i h
    exact h.symm
  · rfl

theorem andThen_assoc (f g h : Emitter) : (f.andThen g).andThen h = f.andThen (g.andThen h) := by
  funext o
  unfold Emitter.andThen
  rcases f o with ⟨_ | _, o'⟩ <;> rfl

theorem emitAll_append (ls ls' : List Line) :
    emitAll (ls ++ ls') = (emitAll ls).andThen (emitAll ls') := by
  induction ls with
  | nil => rfl
  | cons l ls ih =>
    change (emit l).andThen (emitAll (ls ++ ls')) = ((emit l).andThen (emitAll ls)).andThen _
    rw [ih, andThen_assoc]

theorem emits_skip : Emits skip [] := rfl

theorem emits_emit (l : Line) : Emits (emit l) [l] := (andThen_skip (emit l)).symm

theorem Emits.andThen {f g : Emitter} {ls ls' : List Line} (hf : Emits f ls) (hg : Emits g ls') :
    Emits (f.andThen g) (ls ++ ls') := by
  rw [Emits, hf, hg, emitAll_append]

theorem Emits.ite {p : Prop} [Decidable p] {f : Emitter} {ls : List Line} (hf : Emits f ls) :
    Emits (if p then f else skip) (if p then ls else []) := by
  split
  · exact hf
  · exact emits_skip

theorem Emits.forEach {α : Type} {f : α → Emitter} {ls : α → List Line}
    (hf : ∀ a, Emits (f a) (ls a)) (as : List α) : Emits (forEach f as) (as.flatMap ls) := by
  induction as with
  | nil => exact emits_skip
  | cons a as ih =>
    rw [List.flatMap_cons]
    exact (hf a).andThen ih

def attributeLines (as : List SdpAttributes) : List Line :=
  as.flatMap fun a => [⟨false, attributeLine a⟩]

def mediaLines (m : SdpMediaDescription) : List Line :=
  (if m.mediaName.text ≠ [] then [⟨true, textLine SDP_MEDIA_NAME_MARKER m.mediaName.text⟩]
    else []) ++
  ((if m.sdpConnectionInformation.networkType.text ≠ [] then
      [⟨true, connectionLine m.sdpConnectionInformation⟩]
    else []) ++ attributeLines (m.sdpAttributes.firsts m.mediaAttributesCount.toNat))

/-- The lines that are printed for a description. -/
def SessionDescription.lines (d : SessionDescription) : List Line :=
  [⟨true, versionLine d.version⟩] ++
  ((if d.sdpOrigin.Complete then [⟨true, originLine d.sdpOrigin⟩] else []) ++
  ((if d.sessionName.text ≠ [] then [⟨true, textLine SDP_SESSION_NAME_MARKER d.sessionName.text⟩]
    else []) ++
  ((d.sdpTimeDescription.firsts d.timeDescriptionCount.toNat).flatMap
    (fun t => [⟨false, timeLine t⟩]) ++
  (attributeLines (d.sdpAttributes.firsts d.sessionAttributesCount.toNat) ++
  d.media.flatMap mediaLines))))

theorem emits_media (m : SdpMediaDescription) : Emits (serializeMedia m) (mediaLines m) :=
  (Emits.ite (emits_emit _)).andThen
    ((Emits.ite (emits_emit _)).andThen (Emits.forEach (fun _ => emits_emit _) _))

/-- **A description** is its lines, one after the other. -/
theorem emits_serialize (d : SessionDescription) : Emits (serializeLines d) d.lines :=
  (emits_emit _).andThen
    ((Emits.ite (emits_emit _)).andThen
      ((Emits.ite (emits_emit _)).andThen
        ((Emits.forEach (fun _ => emits_emit _) _).andThen
          ((Emits.forEach (fun _ => emits_emit _) _).andThen (Emits.forEach emits_media _)))))

def textOf (ls : List Line) : Bytes := ls.flatMap Line.text

@[simp] theorem textOf_cons (l : Line) (ls : List Line) :
    textOf (l :: ls) = l.text ++ textOf ls := rfl

/-- Whether the line in which position `n` of the text lies is checked. -/
def crossing : Nat → List Line → Option Bool
  | _, [] => none
  | n, l :: ls => if l.text.length ≤ n then crossing (n - l.text.length) ls else some l.checked

/-! ## The size of a description -/

theorem length_textOf_le {ls : List Line} {k : Nat} (h : ∀ l ∈ ls, l.text.length ≤ k) :
    (textOf ls).length ≤ ls.length * k := by
  induction ls with
  | nil => simp [textOf]
  | cons l ls ih =>
    have hl := h l List.mem_cons_self
    have hls := ih fun l' h' => h l' (List.mem_cons_of_mem l h')
    rw [textOf_cons, List.length_append, List.length_cons, Nat.succ_mul]
    omega

theorem length_firsts_le {α : Type} {n : Nat} (t : SlotTable α n) (k : Nat) :
    (t.firsts k).length ≤ n := by
  rw [SlotTable.firsts, List.length_map]
  exact (List.length_take_le' k _).trans (by simp)

theorem length_attributeLine_le (a : SdpAttributes) : (attributeLine a).length ≤ 1000 := by
  have hname : a.attributeName.text.length ≤ 33 := a.attributeName.length_text_le
  have hvalue : a.attributeValue.text.length ≤ 513 := a.attributeValue.length_text_le
  have hmarker : SDP_ATTRIBUTE_MARKER.length = 2 := rfl
  have hcolon : (ascii ":").length = 1 := rfl
  have hend : SDP_LINE_SEPARATOR.length = 2 := rfl
  unfold attributeLine
  split
  · simp only [List.length_append]
    omega
  · simp only [List.length_append]
    omega

theorem length_connectionLine_le (c : SdpConnectionInformation) :
    (connectionLine c).length ≤ 1000 := by
  have hnetwork : c.networkType.text.length ≤ 8 := c.networkType.length_text_le
  have htype : c.addressType.text.length ≤ 8 := c.addressType.length_text_le
  have haddress : c.connectionAddress.text.length ≤ 64 := c.connectionAddress.length_text_le
  have hmarker : SDP_CONNECTION_INFORMATION_MARKER.length = 2 := rfl
  have hspace : (ascii " ").length = 1 := rfl
  have hend : SDP_LINE_SEPARATOR.length = 2 := rfl
  simp only [connectionLine, List.length_append]
  omega

theorem length_originLine_le (o : SdpOrigin) : (originLine o).length ≤ 1000 := by
  have hname : o.userName.text.length ≤ 33 := o.userName.length_text_le
  have hnetwork : o.sdpConnectionInformation.networkType.text.length ≤ 8 :=
    o.sdpConnectionInformation.networkType.length_text_le
  have htype : o.sdpConnectionInformation.addressType.text.length ≤ 8 :=
    o.sdpConnectionInformation.addressType.length_text_le
  have haddress : o.sdpConnectionInformation.connectionAddress.text.length ≤ 64 :=
    o.sdpConnectionInformation.connectionAddress.length_text_le
  have hid := length_printU64_le o.sessionId
  have hversion := length_printU64_le o.sessionVersion
  have hmarker : SDP_ORIGIN_MARKER.length = 2 := rfl
  have hspace : (ascii " ").length = 1 := rfl
  have hend : SDP_LINE_SEPARATOR.length = 2 := rfl
  simp only [originLine, List.length_append]
  omega

theorem length_timeLine_le (t : SdpTimeDescription) : (timeLine t).length ≤ 1000 := by
  have hstart := length_printU64_le t.startTime
  have hstop := length_printU64_le t.stopTime
  have hmarker : SDP_TIME_DESCRIPTION_MARKER.length = 2 := rfl
  have hspace : (ascii " ").length = 1 := rfl
  have hend : SDP_LINE_SEPARATOR.length = 2 := rfl
  simp only [timeLine, List.length_append]
  omega

theorem length_textLine_le {marker text : Bytes} (hmarker : marker.length = 2)
    (htext : text.length ≤ 256) : (textLine marker text).length ≤ 1000 := by
  have hend : SDP_LINE_SEPARATOR.length = 2 := rfl
  simp only [textLine, List.length_append]
  omega

theorem length_versionLine_le (version : UINT64) : (versionLine version).length ≤ 1000 := by
  have hversion := length_printU64_le version
  have hmarker : SDP_VERSION_MARKER.length = 2 := rfl
  have hend : SDP_LINE_SEPARATOR.length = 2 := rfl
  simp only [versionLine, List.length_append]
  omega

/-- At most `k` lines, of at most 1000 characters each. -/
structure Short (ls : List Line) (k : Nat) : Prop where
  length_le : ls.length ≤ k
  text_le : ∀ l ∈ ls, l.text.length ≤ 1000

theorem Short.append {ls ls' : List Line} {k k' : Nat} (h : Short ls k) (h' : Short ls' k') :
    Short (ls ++ ls') (k + k') where
  length_le := by
    rw [List.length_append]
    exact Nat.add_le_add h.length_le h'.length_le
  text_le := fun l hl => (List.mem_append.mp hl).elim (h.text_le l) (h'.text_le l)

theorem Short.one {l : Line} (h : l.text.length ≤ 1000) : Short [l] 1 where
  length_le := Nat.le_refl 1
  text_le := fun _ hl => List.mem_singleton.mp hl ▸ h

theorem Short.ite {p : Prop} [Decidable p] {l : Line} (h : l.text.length ≤ 1000) :
    Short (if p then [l] else []) 1 := by
  split
  · exact Short.one h
  · exact ⟨Nat.zero_le 1, fun _ hl => absurd hl List.not_mem_nil⟩

theorem Short.flatMap {α : Type} {f : α → List Line} {as : List α} {k n : Nat}
    (hf : ∀ a, Short (f a) k) (has : as.length ≤ n) : Short (as.flatMap f) (n * k) := by
  refine ⟨?_, fun l hl => ?_⟩
  · have hlen : (as.flatMap f).length ≤ as.length * k := by
      clear has
      induction as with
      | nil => simp
      | cons a as ih =>
        have := (hf a).length_le
        rw [List.flatMap_cons, List.length_append, List.length_cons, Nat.succ_mul]
        omega
    exact hlen.trans (Nat.mul_le_mul_right k has)
  · obtain ⟨a, -, hl⟩ := List.mem_flatMap.mp hl
    exact (hf a).text_le l hl

theorem short_attributeLines (t : SlotTable SdpAttributes MAX_SDP_ATTRIBUTES_COUNT) (k : Nat) :
    Short (attributeLines (t.firsts k)) (MAX_SDP_ATTRIBUTES_COUNT * 1) :=
  Short.flatMap (fun a => Short.one (length_attributeLine_le a)) (length_firsts_le t k)

theorem short_mediaLines (m : SdpMediaDescription) :
    Short (mediaLines m) (1 + (1 + MAX_SDP_ATTRIBUTES_COUNT * 1)) :=
  (Short.ite (length_textLine_le rfl m.mediaName.length_text_le)).append
    ((Short.ite (length_connectionLine_le _)).append (short_attributeLines _ _))

theorem length_text_lt (d : SessionDescription) : (textOf d.lines).length + 1 < 2 ^ 32 := by
  have hname : (textLine SDP_SESSION_NAME_MARKER d.sessionName.text).length ≤ 1000 :=
    length_textLine_le rfl d.sessionName.length_text_le
  have htime : ∀ t : SdpTimeDescription, Short [⟨false, timeLine t⟩] 1 :=
    fun t => Short.one (length_timeLine_le t)
  have htimes := Short.flatMap htime
    (length_firsts_le d.sdpTimeDescription d.timeDescriptionCount.toNat)
  have hmedia := Short.flatMap short_mediaLines
    (length_firsts_le d.mediaDescriptions d.mediaCount.toNat)
  have hall : Short d.lines _ := (Short.one (length_versionLine_le d.version)).append
    ((Short.ite (length_originLine_le d.sdpOrigin)).append
      ((Short.ite hname).append
        (htimes.append ((short_attributeLines d.sdpAttributes _).append hmedia))))
  have hlen := length_textOf_le hall.text_le
  have hlines := Nat.mul_le_mul_right 1000 hall.length_le
  have htotal : (textOf d.lines).length ≤ _ := hlen.trans hlines
  refine lt_of_le_of_lt (Nat.succ_le_succ htotal) ?_
  decide

/-! ## One line -/

section

variable {n : UINT32} {text : Bytes} {o : Output} {l : Line} {ls : List Line}

/-- The buffer was not left, and the room was never computed from a total behind its end. -/
structure Contained (n : UINT32) (o : Output) : Prop where
  spans : ∀ r ∈ o.spans, r.stop ≤ n.toNat
  totals : ∀ t ∈ o.totals, t.toNat ≤ n.toNat

/-- The text is printed, and it ends inside the buffer or with it. -/
structure At (n : UINT32) (text : Bytes) (o : Output) : Prop where
  curr : o.curr = some text.length
  totalWritten : o.totalWritten = BitVec.ofNat 32 text.length
  bufferSize : o.bufferSize = n
  length_le : text.length ≤ n.toNat
  contained : Contained n o
  starts : text.length < n.toNat → Starts o.memory text
  printed : text ≠ [] → text.length < n.toNat → Printed o.memory text

theorem At.toNat_total (h : At n text o) : o.totalWritten.toNat = text.length := by
  have := n.isLt
  have := h.length_le
  rw [h.totalWritten, BitVec.toNat_ofNat]
  omega

theorem At.toNat_room (h : At n text o) :
    (o.bufferSize - o.totalWritten).toNat = n.toNat - text.length := by
  have hle := h.length_le
  rw [BitVec.toNat_sub, h.toNat_total, h.bufferSize]
  have := n.isLt
  omega

theorem Output.curr_print (o : Output) (line : Bytes) : (o.print line).curr = o.curr := by
  unfold Output.print
  split
  · rfl
  · rfl

theorem Output.total_print (o : Output) (line : Bytes) :
    (o.print line).totalWritten = o.totalWritten ∧ (o.print line).bufferSize = o.bufferSize := by
  unfold Output.print
  split <;> exact ⟨rfl, rfl⟩

theorem At.contained_print (h : At n text o) (line : Bytes) : Contained n (o.print line) := by
  have hle := h.length_le
  simp only [Output.print, h.curr]
  refine ⟨fun r hr => ?_, fun t ht => ?_⟩
  · rcases List.mem_append.mp hr with hr | hr
    · exact h.contained.spans r hr
    · have hlen := @length_snprintf_le (o.bufferSize - o.totalWritten).toNat line
      rw [h.toNat_room] at hlen
      rw [List.mem_singleton.mp hr, h.toNat_room]
      change text.length + (snprintf (n.toNat - text.length) line).length ≤ n.toNat
      omega
  · rcases List.mem_append.mp ht with ht | ht
    · exact h.contained.totals t ht
    · rw [List.mem_singleton.mp ht, h.toNat_total]
      exact hle

theorem At.emit_fits (h : At n text o) (hfits : text.length + l.text.length ≤ n.toNat) :
    ∃ o', emit l o = (.SUCCESS, o') ∧ At n (text ++ l.text) o' := by
  have hn := n.isLt
  obtain ⟨htotal, hsize⟩ := o.total_print l.text
  have hline : (BitVec.ofNat 32 l.text.length).toNat = l.text.length := by
    rw [BitVec.toNat_ofNat]
    omega
  refine ⟨_, if_neg ?_, ?_⟩
  · rintro ⟨-, -, hlt⟩
    rw [BitVec.lt_def, htotal, hsize, h.toNat_room, hline] at hlt
    omega
  have hcurr : (o.print l.text).curr = some text.length := (o.curr_print l.text).trans h.curr
  have hmemory : text.length + l.text.length < n.toNat →
      Printed (o.print l.text).memory (text ++ l.text) := by
    intro hlt
    simp only [Output.print, h.curr]
    have hroom := h.toNat_room
    exact (h.starts (by omega)).snprintf (by omega)
  refine ⟨?_, ?_, ?_, ?_, ?_, ?_, ?_⟩
  · simp only [Output.advance, hcurr, Option.map_some, hline, List.length_append]
  · simp only [Output.advance, htotal, h.totalWritten, List.length_append, BitVec.ofNat_add]
  · exact hsize.trans h.bufferSize
  · rw [List.length_append]
    exact hfits
  · exact ⟨(h.contained_print l.text).spans, (h.contained_print l.text).totals⟩
  · intro hlt
    rw [List.length_append] at hlt
    exact (hmemory hlt).starts
  · intro _ hlt
    rw [List.length_append] at hlt
    exact hmemory hlt

theorem At.emit_checked (h : At n text o) (hline : l.text.length < 2 ^ 32)
    (hchecked : l.checked = true) (hlong : n.toNat < text.length + l.text.length) :
    emit l o = (.BUFFER_TOO_SMALL, o.print l.text) := by
  obtain ⟨htotal, hsize⟩ := o.total_print l.text
  have hle := h.length_le
  refine if_pos ⟨hchecked, ?_, ?_⟩
  · rw [o.curr_print, h.curr]
    exact Option.some_ne_none _
  · rw [BitVec.lt_def, htotal, hsize, h.toNat_room, BitVec.toNat_ofNat, Nat.mod_eq_of_lt hline]
    omega

/-- A line that is not checked takes the total behind the end of the buffer. -/
theorem At.emit_unchecked (h : At n text o) (hsum : text.length + l.text.length < 2 ^ 32)
    (hchecked : l.checked = false) (hlong : n.toNat < text.length + l.text.length) :
    ∃ o', emit l o = (.SUCCESS, o') ∧ n.toNat < o'.totalWritten.toNat ∧ o'.curr ≠ none := by
  refine ⟨_, if_neg (fun hfail => Bool.false_ne_true (hchecked.symm.trans hfail.1)), ?_, ?_⟩
  · simp only [Output.advance, (o.total_print l.text).1]
    rw [BitVec.toNat_add, h.toNat_total, BitVec.toNat_ofNat]
    omega
  · simp [Output.advance, o.curr_print, h.curr]

/-! ## All lines -/

theorem totals_print (line : Bytes) {t : UINT32} (ht : t ∈ o.totals) :
    t ∈ (o.print line).totals := by
  unfold Output.print
  split
  · exact ht
  · exact List.mem_append_left _ ht

theorem totals_emit {t : UINT32} (ht : t ∈ (o.print l.text).totals) :
    t ∈ (emit l o).2.totals := by
  unfold emit
  dsimp only
  split
  · exact ht
  · exact ht

theorem totals_andThen {f g : Emitter} {t : UINT32} (hf : t ∈ (f o).2.totals)
    (hg : ∀ o' : Output, t ∈ o'.totals → t ∈ (g o').2.totals) : t ∈ (f.andThen g o).2.totals := by
  unfold Emitter.andThen
  split
  · rename_i o' heq
    rw [heq] at hf
    exact hg o' hf
  · exact hf

theorem totals_emitAll {t : UINT32} : ∀ (ls : List Line) (o : Output), t ∈ o.totals →
    t ∈ (emitAll ls o).2.totals
  | [], _, ht => ht
  | l :: ls, _, ht => totals_andThen (totals_emit (totals_print l.text ht)) (totals_emitAll ls)

theorem emitAll_cons_success {o' : Output} (h : emit l o = (.SUCCESS, o')) :
    emitAll (l :: ls) o = emitAll ls o' := by
  change (emit l).andThen (emitAll ls) o = _
  rw [Emitter.andThen, h]

theorem emitAll_cons_failed {o' : Output} (h : emit l o = (.BUFFER_TOO_SMALL, o')) :
    emitAll (l :: ls) o = (.BUFFER_TOO_SMALL, o') := by
  change (emit l).andThen (emitAll ls) o = _
  rw [Emitter.andThen, h]

/-- **All lines**: they fit, the line that passes the end reports it, or that line is not checked
and the next one computes its room from a total behind the end. -/
theorem emitAll_spec : ∀ (ls : List Line) {text : Bytes} {o : Output}, At n text o →
    text.length + (textOf ls).length < 2 ^ 32 →
    match crossing (n.toNat - text.length) ls with
    | none => ∃ o', emitAll ls o = (.SUCCESS, o') ∧ At n (text ++ textOf ls) o'
    | some true => n.toNat < text.length + (textOf ls).length ∧
        ∃ o', emitAll ls o = (.BUFFER_TOO_SMALL, o') ∧ Contained n o'
    | some false => n.toNat < text.length + (textOf ls).length ∧
        ((emitAll ls o).1 = .SUCCESS ∨ ¬Contained n (emitAll ls o).2)
  | [], text, o, h, _ => ⟨o, rfl, by simpa [textOf] using h⟩
  | l :: ls, text, o, h, hsum => by
    have hle := h.length_le
    rw [textOf_cons, List.length_append] at hsum
    rw [crossing]
    by_cases hfits : l.text.length ≤ n.toNat - text.length
    · obtain ⟨o', hemit, hat⟩ := h.emit_fits (l := l) (by omega)
      have hrest := emitAll_spec ls hat (by rw [List.length_append]; omega)
      rw [if_pos hfits, emitAll_cons_success hemit, textOf_cons, ← List.append_assoc]
      simpa only [List.length_append, Nat.sub_sub, Nat.add_assoc] using hrest
    · rw [if_neg hfits, textOf_cons, List.length_append]
      cases hchecked : l.checked with
      | true =>
        refine ⟨by omega, _, ?_, h.contained_print l.text⟩
        exact emitAll_cons_failed (h.emit_checked (by omega) hchecked (by omega))
      | false =>
        obtain ⟨o', hemit, htotal, hcurr⟩ := h.emit_unchecked (by omega) hchecked (by omega)
        refine ⟨by omega, ?_⟩
        rw [emitAll_cons_success hemit]
        cases ls with
        | nil => exact .inl rfl
        | cons l' ls =>
          refine .inr fun hcontained => ?_
          have hmem : o'.totalWritten ∈ (emitAll (l' :: ls) o').2.totals := by
            obtain ⟨off, hoff⟩ := Option.ne_none_iff_exists'.mp hcurr
            exact totals_andThen (totals_emit (by simp [Output.print, hoff])) (totals_emitAll ls)
          exact absurd (hcontained.totals _ hmem) (Nat.not_le.mpr htotal)

end

/-! ## The description -/

/-- The text of a description. -/
def SessionDescription.text (d : SessionDescription) : Bytes := textOf d.lines

/-- What serialising into a buffer is to do: stay in it, never compute the room from a total behind
its end, print the whole text with its NUL when that fits, and report it when it does not. -/
structure SerializesInto (d : SessionDescription) (sdpBytes : Memory) (bufferSize : UINT32) :
    Prop where
  contained : Contained bufferSize (serializeSessionDescription d (some sdpBytes) bufferSize).output
  success_iff : (serializeSessionDescription d (some sdpBytes) bufferSize).status = .SUCCESS ↔
    d.text.length + 1 ≤ bufferSize.toNat
  printed : d.text.length + 1 ≤ bufferSize.toNat →
    Printed (serializeSessionDescription d (some sdpBytes) bufferSize).output.memory d.text ∧
      (serializeSessionDescription d (some sdpBytes) bufferSize).sdpBytesLength.toNat =
        d.text.length + 1
  too_small : bufferSize.toNat < d.text.length + 1 →
    (serializeSessionDescription d (some sdpBytes) bufferSize).status = .BUFFER_TOO_SMALL

theorem text_ne_nil (d : SessionDescription) : d.text ≠ [] := by
  have hlen : (SDP_VERSION_MARKER ++ printU64 d.version ++ SDP_LINE_SEPARATOR).length ≠ 0 := by
    simp [SDP_LINE_SEPARATOR]
  intro h
  exact hlen (by
    have := congrArg List.length h
    rw [List.length_nil, SessionDescription.text, SessionDescription.lines, List.singleton_append,
      textOf_cons, List.length_append] at this
    exact (Nat.add_eq_zero_iff.mp this).1)

section

variable {d : SessionDescription} {sdpBytes : Memory} {bufferSize : UINT32} {o : Output}

theorem serialize_eq
    (h : emitAll d.lines ⟨some 0, 0, bufferSize, sdpBytes, [], []⟩ = (.SUCCESS, o)) :
    serializeSessionDescription d (some sdpBytes) bufferSize =
      ⟨.SUCCESS, o.totalWritten + 1, o⟩ := by
  have hlines := (congrFun (emits_serialize d) _).trans h
  simp only [serializeSessionDescription, Option.map_some, Option.getD_some, hlines]

theorem serialize_eq_failed
    (h : emitAll d.lines ⟨some 0, 0, bufferSize, sdpBytes, [], []⟩ = (.BUFFER_TOO_SMALL, o)) :
    serializeSessionDescription d (some sdpBytes) bufferSize =
      ⟨.BUFFER_TOO_SMALL, o.totalWritten, o⟩ := by
  have hlines := (congrFun (emits_serialize d) _).trans h
  simp only [serializeSessionDescription, Option.map_some, Option.getD_some, hlines]

end

/-- **Serialising keeps to its buffer** and reports a text that does not fit exactly when the text
fits with its NUL, or the line at the end of the buffer is one whose length is checked. -/
theorem serialize_safe_iff (d : SessionDescription) (sdpBytes : Memory) (bufferSize : UINT32) :
    SerializesInto d sdpBytes bufferSize ↔
      d.text.length + 1 ≤ bufferSize.toNat ∨ crossing bufferSize.toNat d.lines = some true := by
  have hlen : d.text.length + 1 < 2 ^ 32 := length_text_lt d
  have hstart : At bufferSize [] ⟨some 0, 0, bufferSize, sdpBytes, [], []⟩ := by
    refine ⟨rfl, rfl, rfl, Nat.zero_le _, ⟨?_, ?_⟩, fun _ => starts_nil _, fun h => absurd rfl h⟩
    · exact fun _ hr => absurd hr List.not_mem_nil
    · exact fun _ ht => absurd ht List.not_mem_nil
  have hspec := emitAll_spec d.lines hstart
    (by simpa using (Nat.lt_of_succ_lt hlen : (textOf d.lines).length < 2 ^ 32))
  rw [List.length_nil, Nat.sub_zero, Nat.zero_add, List.nil_append] at hspec
  cases hc : crossing bufferSize.toNat d.lines with
  | none =>
    rw [hc] at hspec
    obtain ⟨o, hall, hat⟩ := hspec
    have heq := serialize_eq hall
    constructor
    · intro h
      exact .inl (h.success_iff.mp (by rw [heq]))
    · rintro (hfits | hcross)
      case inr => cases hcross
      refine ⟨by rw [heq]; exact hat.contained, by simp [heq, hfits], fun _ => ?_, fun h => ?_⟩
      · rw [heq]
        refine ⟨hat.printed (text_ne_nil d) (Nat.lt_of_succ_le hfits), ?_⟩
        change (o.totalWritten + 1).toNat = _
        rw [BitVec.toNat_add, hat.toNat_total]
        exact Nat.mod_eq_of_lt hlen
      · exact absurd hfits (Nat.not_le.mpr h)
  | some checked =>
    cases checked with
    | true =>
      rw [hc] at hspec
      obtain ⟨hlong, o, hall, hcontained⟩ := hspec
      have heq := serialize_eq_failed hall
      have hnot : ¬d.text.length + 1 ≤ bufferSize.toNat :=
        fun h => absurd (Nat.lt_of_succ_le h) (Nat.not_lt.mpr (Nat.le_of_lt hlong))
      refine iff_of_true ⟨by rw [heq]; exact hcontained, ?_, fun h => absurd h hnot, fun _ => ?_⟩
        (.inr rfl)
      · simp [heq, hnot]
      · rw [heq]
    | false =>
      rw [hc] at hspec
      obtain ⟨hlong, hbad⟩ := hspec
      have hnot : ¬d.text.length + 1 ≤ bufferSize.toNat :=
        fun h => absurd (Nat.lt_of_succ_le h) (Nat.not_lt.mpr (Nat.le_of_lt hlong))
      refine iff_of_false (fun h => ?_) (by simpa using Nat.not_le.mp hnot)
      have htoosmall := h.too_small (Nat.not_le.mp hnot)
      cases hall : emitAll d.lines ⟨some 0, 0, bufferSize, sdpBytes, [], []⟩ with
      | mk status o =>
        rw [hall] at hbad
        rcases hbad with rfl | hbad
        · rw [serialize_eq hall] at htoosmall
          cases htoosmall
        · have hcontained := h.contained
          cases status with
          | SUCCESS => exact hbad (by rwa [serialize_eq hall] at hcontained)
          | BUFFER_TOO_SMALL => exact hbad (by rwa [serialize_eq_failed hall] at hcontained)

/-! ## A buffer that ends in a time line -/

/-- A session without origin and name, and one time description. -/
def timeOnly : SessionDescription :=
  { SessionDescription.zero with timeDescriptionCount := 1, timeDescriptionCount_le := by decide }

theorem not_serialize_safe : ¬SerializesInto timeOnly (fun _ => 0) 8 := by
  intro h
  have hshort : (serializeSessionDescription timeOnly (some fun _ => 0) 8).status = .SUCCESS := by
    rfl
  have hfits := h.success_iff.mp hshort
  exact absurd hfits (by decide +kernel)

end KvsWebrtc.Sdp
