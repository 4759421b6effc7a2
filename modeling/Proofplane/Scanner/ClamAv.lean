import Proofplane.Base.Base64
import Proofplane.Base.Frames
import Proofplane.Base.Text

/-!
# The malware scanner

An object is sent to `clamd` in frames, and the answer is read up to its first zero byte.  What the other
side does is a list of reads; it takes every byte that is written.

* `writeChunks`, `readResponse`, `scan`   a scan over one connection;
* `parseResponse`          the verdict, `parseResponse_clean_iff`;
* `writeChunks_ok`         what is written of chunks that all arrive;
* `readResponse_nul`, `readResponse_closed`, `readResponse_long`   where the answer ends;
* `clamav_instream`        **the scanner is sent the object and nothing else, and the verdict is that of the
                           answer, however it arrives**.
-/

namespace Proofplane
open Base

inductive MalwareScanOutcome
  | clean
  | malicious (reason : String)
  | failed (reason : String)
  deriving DecidableEq, Repr

structure MalwareScanResult where
  scannerName : String
  scannerVersion : Option String
  outcome : MalwareScanOutcome
  deriving DecidableEq, Repr

inductive MalwareScanError
  | unavailable (reason : String)
  | timeout (reason : String)
  | internal (reason : String)
  deriving DecidableEq, Repr

def instreamCommand : List UInt8 := asBytes "zINSTREAM" ++ [0]
def instreamChunkSize : Nat := 1024 * 1024
def maxResponseBytes : Nat := 64 * 1024

/-! ## What is written -/

def writeFrames : List (List UInt8) → List UInt8 → Except MalwareScanError Unit × List UInt8
  | [], written => (.ok (), written)
  | bytes :: rest, written =>
    if 2 ^ 32 ≤ bytes.length then
      (.error (.internal "INSTREAM frame length exceeds the protocol limit"), written)
    else writeFrames rest (written ++ toBeBytes (UInt32.ofNat bytes.length) ++ bytes)

/-- chunk after chunk, and then the frame that ends the stream -/
def writeChunks :
    List (Except MalwareScanError (List UInt8)) → List UInt8 → Except MalwareScanError Unit × List UInt8
  | [], written => (.ok (), written ++ toBeBytes 0)
  | .error e :: _, written => (.error e, written)
  | .ok chunk :: rest, written =>
    match writeFrames (sliceChunks instreamChunkSize chunk) written with
    | (.error e, written) => (.error e, written)
    | (.ok (), written) => writeChunks rest written

/-! ## What is read -/

def protocolError (error : String) : MalwareScanError :=
  .unavailable ("clamd protocol I/O failed: " ++ error)

def responseTooLong : MalwareScanError := .internal "clamd response exceeded maximum length"

/-- the loop over the reads; the list ends where the other side has closed the connection -/
def readResponse : List (Except String (List UInt8)) → List UInt8 → Except MalwareScanError (List UInt8)
  | [], response => if maxResponseBytes ≤ response.length then .error responseTooLong else .ok response
  | read :: rest, response =>
    if maxResponseBytes ≤ response.length then .error responseTooLong
    else
      match read with
      | .error e => .error (protocolError e)
      | .ok buffer =>
        if buffer = [] then .ok response
        else if (response ++ buffer).contains 0 then .ok (response ++ buffer)
        else readResponse rest (response ++ buffer)

/-! ## The verdict -/

def responseReason (response : String) : String :=
  ((afterFirst ": ".toList response.toList).map String.ofList).getD response

/-- the bytes before the first zero, as trimmed text that is not empty -/
def responseText (response : List UInt8) : Option String :=
  ((fromUtf8 (response.takeWhile (· ≠ 0))).map trim).filter fun text => text ≠ ""

def parseResponse (response : List UInt8) : Except MalwareScanError MalwareScanResult :=
  match responseText response with
  | none => .error (.internal "clamd returned an empty or invalid response")
  | some text =>
    if endsWith " OK" text then .ok ⟨"clamav", none, .clean⟩
    else
      match stripEnding " FOUND" text with
      | some reason => .ok ⟨"clamav", none, .malicious (responseReason reason)⟩
      | none =>
        match stripEnding " ERROR" text with
        | some reason => .ok ⟨"clamav", none, .failed (responseReason reason)⟩
        | none => .error (.internal ("unexpected clamd response: " ++ text))

example : parseResponse (asBytes "stream: Win.Test.EICAR_HDB-1 FOUND" ++ [0])
    = .ok ⟨"clamav", none, .malicious "Win.Test.EICAR_HDB-1"⟩ := by decide

/-- a scan over a connection: the verdict, and the bytes that were written -/
def scan (chunks : List (Except MalwareScanError (List UInt8))) (reads : List (Except String (List UInt8))) :
    Except MalwareScanError MalwareScanResult × List UInt8 :=
  match writeChunks chunks instreamCommand with
  | (.error e, written) => (.error e, written)
  | (.ok (), written) =>
    match readResponse reads [] with
    | .error e => (.error e, written)
    | .ok response => (parseResponse response, written)

/-- the frames that `clamd` takes, and what is behind the last of them -/
def decodeInstream (bytes : List UInt8) : Option (List (List UInt8) × List UInt8) :=
  if instreamCommand.isPrefixOf bytes then readFrames bytes.length (bytes.drop instreamCommand.length)
  else none

/-! ## Frames -/

theorem writeFrames_ok {frames : List (List UInt8)} (h : ∀ bytes ∈ frames, bytes.length < 2 ^ 32)
    (written : List UInt8) : writeFrames frames written = (.ok (), written ++ frames.flatMap frame) := by
  induction frames generalizing written with
  | nil =>
    rw [List.flatMap_nil, List.append_nil]
    rfl
  | cons bytes frames ih =>
    have hfits := Nat.not_le.mpr (h bytes List.mem_cons_self)
    unfold writeFrames
    rw [if_neg hfits, ih fun b hb => h b (List.mem_cons_of_mem _ hb), List.flatMap_cons, List.append_assoc,
      List.append_assoc]
    rfl

/-- the frames of all chunks -/
def framesOf (chunks : List (List UInt8)) : List (List UInt8) :=
  chunks.flatMap (sliceChunks instreamChunkSize)

theorem framesOf_spec (chunks : List (List UInt8)) :
    (framesOf chunks).flatten = chunks.flatten ∧
      ∀ bytes ∈ framesOf chunks, bytes ≠ [] ∧ bytes.length < 2 ^ 32 := by
  have hsize : 0 < instreamChunkSize := by decide
  constructor
  · induction chunks with
    | nil => rfl
    | cons chunk chunks ih =>
      unfold framesOf at ih ⊢
      rw [List.flatMap_cons, List.flatten_append, ih, (sliceChunks_spec hsize chunk).1, List.flatten_cons]
  · intro bytes hbytes
    obtain ⟨chunk, -, hslice⟩ := List.mem_flatMap.mp hbytes
    obtain ⟨hne, hle⟩ := (sliceChunks_spec hsize chunk).2 bytes hslice
    exact ⟨hne, Nat.lt_of_le_of_lt hle (by decide)⟩

theorem writeChunks_ok (chunks : List (List UInt8)) (written : List UInt8) :
    writeChunks (chunks.map .ok) written
      = (.ok (), written ++ ((framesOf chunks).flatMap frame ++ endFrame)) := by
  induction chunks generalizing written with
  | nil => rfl
  | cons chunk chunks ih =>
    have hsize : 0 < instreamChunkSize := by decide
    have hframes : ∀ bytes ∈ sliceChunks instreamChunkSize chunk, bytes.length < 2 ^ 32 := by
      intro bytes hbytes
      exact Nat.lt_of_le_of_lt ((sliceChunks_spec hsize chunk).2 bytes hbytes).2 (by decide)
    have hall : framesOf (chunk :: chunks) = sliceChunks instreamChunkSize chunk ++ framesOf chunks := rfl
    rw [List.map_cons]
    unfold writeChunks
    rw [writeFrames_ok hframes]
    dsimp only
    rw [ih, hall, List.flatMap_append, List.append_assoc, List.append_assoc]

/-- **The other side is sent the chunks, in frames that are not empty, and then the end.** -/
theorem decodeInstream_written (chunks : List (List UInt8)) :
    decodeInstream (instreamCommand ++ ((framesOf chunks).flatMap frame ++ endFrame))
      = some (framesOf chunks, []) := by
  have hfuel : (framesOf chunks).length
      < (instreamCommand ++ ((framesOf chunks).flatMap frame ++ endFrame)).length := by
    have hframes : (framesOf chunks).length ≤ ((framesOf chunks).flatMap frame).length := by
      generalize framesOf chunks = frames
      induction frames with
      | nil => exact Nat.le_refl _
      | cons bytes frames ih =>
        have hframe : (frame bytes).length = 4 + bytes.length := by
          unfold frame toBeBytes
          rw [List.length_append]
          rfl
        rw [List.flatMap_cons, List.length_append, List.length_cons]
        omega
    have hend : endFrame.length = 4 := rfl
    rw [List.length_append, List.length_append]
    omega
  have hread := readFrames_frames (framesOf_spec chunks).2 hfuel []
  rw [List.append_nil] at hread
  unfold decodeInstream
  rw [if_pos (List.isPrefixOf_iff_prefix.mpr (List.prefix_append _ _)), List.drop_left]
  exact hread

/-! ## The answer -/

theorem takeWhile_append_of_zero {a : List UInt8} (h : 0 ∈ a) (b : List UInt8) :
    (a ++ b).takeWhile (· ≠ 0) = a.takeWhile (· ≠ 0) := by
  obtain ⟨front, back, rfl, hfront⟩ := List.eq_append_cons_of_mem h
  have hpass : ∀ x ∈ front, decide (x ≠ 0) = true := fun x hx => decide_eq_true fun heq => hfront (heq ▸ hx)
  rw [List.append_assoc, List.takeWhile_append_of_pos hpass, List.takeWhile_append_of_pos hpass]
  rfl

/-- nothing behind the first zero byte counts -/
theorem parseResponse_congr {a b : List UInt8} (h : a.takeWhile (· ≠ 0) = b.takeWhile (· ≠ 0)) :
    parseResponse a = parseResponse b := by
  unfold parseResponse responseText
  rw [h]

theorem readResponse_cons {buffer response : List UInt8} {rest : List (Except String (List UInt8))}
    (hlength : response.length < maxResponseBytes) (hne : buffer ≠ []) :
    readResponse (.ok buffer :: rest) response
      = if (response ++ buffer).contains 0 then .ok (response ++ buffer)
        else readResponse rest (response ++ buffer) :=
  (if_neg (Nat.not_le.mpr hlength)).trans (if_neg hne)

/-- the loop stops at a zero byte, if there is one soon enough -/
theorem readResponse_nul {reads : List (List UInt8)} (hne : ∀ buffer ∈ reads, buffer ≠ [])
    (later : List (Except String (List UInt8))) {response : List UInt8} (hresponse : 0 ∉ response)
    (hmem : 0 ∈ reads.flatten) (hindex : (response ++ reads.flatten).idxOf 0 < maxResponseBytes) :
    ∃ answer, readResponse (reads.map .ok ++ later) response = .ok answer ∧
      answer.takeWhile (· ≠ 0) = (response ++ reads.flatten).takeWhile (· ≠ 0) := by
  induction reads generalizing response with
  | nil => cases hmem
  | cons buffer reads ih =>
    have hlength : response.length < maxResponseBytes := by
      rw [List.idxOf_append_of_notMem hresponse] at hindex
      omega
    have hbuffer := hne buffer List.mem_cons_self
    rw [List.flatten_cons, ← List.append_assoc] at hindex ⊢
    rw [List.map_cons, List.cons_append, readResponse_cons hlength hbuffer]
    by_cases hzero : 0 ∈ response ++ buffer
    · rw [if_pos (by simpa using hzero)]
      exact ⟨_, rfl, (takeWhile_append_of_zero hzero _).symm⟩
    · rw [if_neg (by simpa using hzero)]
      refine ih (fun b hb => hne b (List.mem_cons_of_mem _ hb)) hzero ?_ hindex
      rw [List.flatten_cons] at hmem
      rcases List.mem_append.mp hmem with h | h
      · exact absurd (List.mem_append_right _ h) hzero
      · exact h

/-- without a zero byte it goes on to the end -/
theorem readResponse_closed {reads : List (List UInt8)} (hne : ∀ buffer ∈ reads, buffer ≠ [])
    (response : List UInt8) (hzero : 0 ∉ response ++ reads.flatten)
    (hlength : (response ++ reads.flatten).length < maxResponseBytes) :
    readResponse (reads.map .ok) response = .ok (response ++ reads.flatten) := by
  induction reads generalizing response with
  | nil =>
    rw [List.flatten_nil, List.append_nil] at hlength ⊢
    exact if_neg (Nat.not_le.mpr hlength)
  | cons buffer reads ih =>
    have hshort : response.length < maxResponseBytes := by
      rw [List.length_append] at hlength
      omega
    have hbuffer := hne buffer List.mem_cons_self
    rw [List.flatten_cons, ← List.append_assoc] at hzero hlength ⊢
    have hzero' : 0 ∉ response ++ buffer := fun h => hzero (List.mem_append_left _ h)
    rw [List.map_cons, readResponse_cons hshort hbuffer, if_neg (by simpa using hzero')]
    exact ih (fun b hb => hne b (List.mem_cons_of_mem _ hb)) _ hzero hlength

/-- and gives up at the limit -/
theorem readResponse_long {reads : List (List UInt8)} (hne : ∀ buffer ∈ reads, buffer ≠ [])
    (later : List (Except String (List UInt8))) (response : List UInt8)
    (hzero : 0 ∉ response ++ reads.flatten)
    (hlength : maxResponseBytes ≤ (response ++ reads.flatten).length) :
    readResponse (reads.map .ok ++ later) response = .error responseTooLong := by
  have hover : ∀ (rest : List (Except String (List UInt8))) (response : List UInt8),
      maxResponseBytes ≤ response.length → readResponse rest response = .error responseTooLong := by
    intro rest response hle
    cases rest with
    | nil => exact if_pos hle
    | cons read rest => exact if_pos hle
  induction reads generalizing response with
  | nil =>
    rw [List.flatten_nil, List.append_nil] at hlength
    exact hover _ _ hlength
  | cons buffer reads ih =>
    by_cases hshort : response.length < maxResponseBytes
    · have hbuffer := hne buffer List.mem_cons_self
      rw [List.flatten_cons, ← List.append_assoc] at hzero hlength
      have hzero' : 0 ∉ response ++ buffer := fun h => hzero (List.mem_append_left _ h)
      rw [List.map_cons, List.cons_append, readResponse_cons hshort hbuffer,
        if_neg (by simpa using hzero')]
      exact ih (fun b hb => hne b (List.mem_cons_of_mem _ hb)) _ hzero hlength
    · exact hover _ _ (Nat.le_of_not_lt hshort)

/-- **The verdict is clean for a text that ends in ` OK`, and for no other answer.** -/
theorem parseResponse_clean_iff (response : List UInt8) :
    (∃ result, parseResponse response = .ok result ∧ result.outcome = .clean) ↔
      ∃ text, fromUtf8 (response.takeWhile (· ≠ 0)) = some text ∧ endsWith " OK" (trim text) = true := by
  unfold parseResponse
  cases htext : responseText response with
  | none =>
    refine iff_of_false ?_ ?_
    · rintro ⟨result, hresult, -⟩
      cases hresult
    · rintro ⟨text, hutf8, hends⟩
      unfold responseText at htext
      rw [hutf8, Option.map_some, Option.filter_some] at htext
      by_cases hempty : trim text = ""
      · rw [hempty] at hends
        exact absurd hends (by decide)
      · simp [hempty] at htext
  | some text =>
    have htrim : ∃ raw, fromUtf8 (response.takeWhile (· ≠ 0)) = some raw ∧ trim raw = text := by
      unfold responseText at htext
      exact Option.map_eq_some_iff.mp (Option.filter_eq_some_iff.mp htext).1
    obtain ⟨raw, hutf8, rfl⟩ := htrim
    dsimp only
    by_cases hends : endsWith " OK" (trim raw) = true
    · rw [if_pos hends]
      exact iff_of_true ⟨_, rfl, rfl⟩ ⟨raw, hutf8, hends⟩
    · rw [if_neg hends]
      refine iff_of_false ?_ ?_
      · rintro ⟨result, hresult, hclean⟩
        split at hresult
        · cases hresult
          cases hclean
        · split at hresult
          · cases hresult
            cases hclean
          · cases hresult
      · rintro ⟨text, htext', hends'⟩
        obtain rfl := Option.some.inj (hutf8.symm.trans htext')
        exact hends hends'

theorem scan_eq (chunks : List (List UInt8)) (reads : List (Except String (List UInt8))) :
    scan (chunks.map .ok) reads
      = (match readResponse reads [] with
          | .error e => .error e
          | .ok response => parseResponse response,
        instreamCommand ++ ((framesOf chunks).flatMap frame ++ endFrame)) := by
  unfold scan
  rw [writeChunks_ok]
  dsimp only
  cases readResponse reads [] with
  | error e => rfl
  | ok response => rfl

/-- **Every scan of chunks that arrive.  What is written is the command and frames that are not empty, which
hold the chunks one after the other, and the end behind them.  The verdict is that of the whole answer, in
whatever reads it comes, if its first zero byte is below the limit or it ends without one below the limit;
at the limit without one it is an error.  It is clean exactly for a text that ends in ` OK`.** -/
theorem clamav_instream :
    (∀ (chunks : List (List UInt8)) reads, ∃ frames,
      decodeInstream (scan (chunks.map .ok) reads).2 = some (frames, []) ∧
      (scan (chunks.map .ok) reads).2 = instreamCommand ++ (frames.flatMap frame ++ endFrame) ∧
      frames.flatten = chunks.flatten ∧ ∀ bytes ∈ frames, bytes ≠ []) ∧
    (∀ (chunks reads : List (List UInt8)) later, (∀ buffer ∈ reads, buffer ≠ []) →
      (0 ∈ reads.flatten → reads.flatten.idxOf 0 < maxResponseBytes →
        (scan (chunks.map .ok) (reads.map .ok ++ later)).1 = parseResponse reads.flatten) ∧
      (0 ∉ reads.flatten → reads.flatten.length < maxResponseBytes →
        (scan (chunks.map .ok) (reads.map .ok)).1 = parseResponse reads.flatten) ∧
      (0 ∉ reads.flatten → maxResponseBytes ≤ reads.flatten.length →
        (scan (chunks.map .ok) (reads.map .ok ++ later)).1 = .error responseTooLong)) ∧
    (∀ answer rest : List UInt8, parseResponse (answer ++ 0 :: rest) = parseResponse (answer ++ [0])) ∧
    ∀ response, (∃ result, parseResponse response = .ok result ∧ result.outcome = .clean) ↔
      ∃ text, fromUtf8 (response.takeWhile (· ≠ 0)) = some text ∧ endsWith " OK" (trim text) = true := by
  refine ⟨fun chunks reads => ?_, fun chunks reads later hne => ⟨fun hmem hindex => ?_,
    fun hzero hlength => ?_, fun hzero hlength => ?_⟩, fun answer rest => ?_, parseResponse_clean_iff⟩
  · obtain ⟨hflatten, hframes⟩ := framesOf_spec chunks
    rw [scan_eq]
    exact ⟨framesOf chunks, decodeInstream_written chunks, rfl, hflatten,
      fun bytes hbytes => (hframes bytes hbytes).1⟩
  · obtain ⟨answer, hread, hanswer⟩ := readResponse_nul hne later (List.not_mem_nil) hmem hindex
    rw [scan_eq, hread]
    exact parseResponse_congr hanswer
  · have hread := readResponse_closed hne [] hzero hlength
    rw [scan_eq, hread]
    rfl
  · have hread := readResponse_long hne later [] hzero hlength
    rw [scan_eq, hread]
  · have hzero : (0 : UInt8) ∈ answer ++ [0] := List.mem_append_right _ List.mem_cons_self
    have hsplit : answer ++ 0 :: rest = answer ++ [0] ++ rest := by
      rw [List.append_assoc, List.singleton_append]
    rw [hsplit]
    exact parseResponse_congr (takeWhile_append_of_zero hzero rest)

end Proofplane
