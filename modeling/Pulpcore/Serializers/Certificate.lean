import Pulpcore.Models.Basic
import Pulpcore.Serializers.Text

/-!
# PEM certificates

`validate_certificate(which_cert, value)` reads `value` line by line. A block begins at a
line holding `-----BEGIN CERTIFICATE-----` and takes every line up to the next one holding
`-----END CERTIFICATE-----`; each block must be ASCII and accepted by
`load_pem_x509_certificate`, and is kept stripped of surrounding whitespace. The result is
the kept blocks joined by newlines and ended by one.

Validating the result again gives it back, with the same blocks
(`validateCertificate_revalidates`), when the loader accepts a block exactly when it accepts
it stripped. The loader is `load_pem_x509_certificate`, which also refuses the empty block
`b""` that an END line outside any block hands it; the proof uses that too.

The proof follows the loop. Each kept certificate is the stripped text of a block
(`IsBlock`), whose lines are the block's lines with the first one's leading and the last
one's trailing whitespace removed (`IsBlock.strip_blockText`); those lines form a block again,
which the loop reads back to the same certificate (`KeptCertificate.foldlM`).
-/

namespace Pulpcore

/-- The text that opens a certificate block. -/
def beginCertificate : List Char := "-----BEGIN CERTIFICATE-----".toList

/-- The text that closes a certificate block. -/
def endCertificate : List Char := "-----END CERTIFICATE-----".toList

/-- `bytes(s, "ASCII")` succeeds. -/
def isAscii (s : List Char) : Bool := s.all (·.toNat < 128)

/-- Why `validate_certificate` raised a `ValidationError`. -/
inductive CertificateError where
  /-- `No {which_cert} specified in string {value}`. -/
  | noCertificate (whichCert value : String)
  /-- `Invalid {which_cert} specified, error '{e.args}'`, from the `UnicodeEncodeError` of a
  block that is not ASCII. -/
  | notAscii (whichCert : String)
  /-- `Invalid {which_cert} specified, error '{e.args}'`, from the `ValueError` of a block the
  loader refused, with the text of its arguments. -/
  | invalid (whichCert args : String)
  deriving DecidableEq, Repr

/-- `a_cert` after a line: at a line holding the BEGIN marker, or once a block has begun, the
line and a newline are added. -/
def appendLine (aCert line : List Char) : List Char :=
  if beginCertificate <:+: line ∨ aCert ≠ [] then aCert ++ line ++ ['\n'] else aCert

/-- One pass of the loop of `validate_certificate`, on the certificates kept so far and
`a_cert`. `loadPem` is `load_pem_x509_certificate`, refusing a block with a `ValueError`. -/
def certificateLine (loadPem : List Char → Except String Unit) (whichCert : String) :
    List (List Char) × List Char → List Char →
      Except CertificateError (List (List Char) × List Char)
  | (certs, aCert), line =>
    let aCert := appendLine aCert line
    if endCertificate <:+: line then
      if isAscii aCert then
        match loadPem aCert with
        | .ok () => .ok (certs ++ [strip aCert], [])
        | .error args => .error (.invalid whichCert args)
      else .error (.notAscii whichCert)
    else .ok (certs, aCert)

/-- The loop of `validate_certificate` over `value.split("\n")`: the certificates it keeps,
and the block it is still reading at the end. -/
def certificateBlocks (loadPem : List Char → Except String Unit) (whichCert value : String) :
    Except CertificateError (List (List Char) × List Char) :=
  (value.toList.splitOn '\n').foldlM (certificateLine loadPem whichCert) ([], [])

/-- `validate_certificate(which_cert, value)`: `None` and `""` give `None`. -/
def validateCertificate (loadPem : List Char → Except String Unit) (whichCert : String) :
    Option String → Except CertificateError (Option String)
  | none => .ok none
  | some value =>
    if value = "" then .ok none
    else
      match certificateBlocks loadPem whichCert value with
      | .error e => .error e
      | .ok (certs, _) =>
        if certs = [] then .error (.noCertificate whichCert value)
        else .ok (some (String.mk (['\n'].intercalate certs ++ ['\n'])))

/-- `RemoteSerializer.validate_ca_cert`. -/
def validateCaCert (loadPem : List Char → Except String Unit) :
    Option String → Except CertificateError (Option String) :=
  validateCertificate loadPem "ca_cert"

/-- `RemoteSerializer.validate_client_cert`. -/
def validateClientCert (loadPem : List Char → Except String Unit) :
    Option String → Except CertificateError (Option String) :=
  validateCertificate loadPem "client_cert"

/-! ### Blocks -/

/-- The text `a_cert` holds after the lines of a block: each line and a newline. -/
def blockText (lines : List (List Char)) : List Char := (lines.map (· ++ ['\n'])).flatten

@[simp] lemma blockText_nil : blockText [] = [] := rfl

@[simp] lemma blockText_cons (line : List Char) (lines : List (List Char)) :
    blockText (line :: lines) = line ++ '\n' :: blockText lines := by
  simp [blockText]

@[simp] lemma blockText_append (lines lines' : List (List Char)) :
    blockText (lines ++ lines') = blockText lines ++ blockText lines' := by
  simp [blockText]

/-- `"\n".join(lines) + "\n"` is the text of the lines. -/
lemma intercalate_append_newline {lines : List (List Char)} (h : lines ≠ []) :
    ['\n'].intercalate lines ++ ['\n'] = blockText lines := by
  induction lines with
  | nil => contradiction
  | cons line lines ih =>
    cases lines with
    | nil => simp [List.intercalate]
    | cons line' lines' =>
      have ih := ih (List.cons_ne_nil _ _)
      simp only [List.intercalate, List.intersperse_cons_cons, List.flatten_cons] at ih ⊢
      simp [ih]

/-- The lines of one certificate block: a first line with the BEGIN marker, then lines
without the END marker, up to one with it. -/
inductive IsBlock : List (List Char) → Prop
  | single {line : List Char} :
      beginCertificate <:+: line → endCertificate <:+: line → IsBlock [line]
  | multi {first last : List Char} {middle : List (List Char)} :
      beginCertificate <:+: first → ¬ endCertificate <:+: first →
        (∀ l ∈ middle, ¬ endCertificate <:+: l) → endCertificate <:+: last →
          IsBlock (first :: middle ++ [last])

lemma pyIsSpace_newline : pyIsSpace '\n' = true := by decide

/-- A line holding a marker has a character that is not whitespace. -/
lemma exists_not_space_of_begin {line : List Char} (h : beginCertificate <:+: line) :
    ∃ c ∈ line, pyIsSpace c = false :=
  ⟨'-', h.subset (by decide), by decide⟩

lemma exists_not_space_of_end {line : List Char} (h : endCertificate <:+: line) :
    ∃ c ∈ line, pyIsSpace c = false :=
  ⟨'-', h.subset (by decide), by decide⟩

/-- The markers start and end with a dash, so stripping a line keeps them. -/
lemma begin_infix_strip {line : List Char} (h : beginCertificate <:+: line) :
    beginCertificate <:+: lstrip line ∧ beginCertificate <:+: rstrip line ∧
      beginCertificate <:+: strip line :=
  have hl := infix_lstrip h (by decide)
  ⟨hl, infix_rstrip h (by decide), infix_rstrip hl (by decide)⟩

lemma end_infix_strip {line : List Char} (h : endCertificate <:+: line) :
    endCertificate <:+: lstrip line ∧ endCertificate <:+: rstrip line ∧
      endCertificate <:+: strip line :=
  have hl := infix_lstrip h (by decide)
  ⟨hl, infix_rstrip h (by decide), infix_rstrip hl (by decide)⟩

/-- Stripping the text of a block of several lines strips its first and last line. -/
lemma strip_blockText_multi {first last : List Char} (middle : List (List Char))
    (hfirst : ∃ c ∈ first, pyIsSpace c = false) (hlast : ∃ c ∈ last, pyIsSpace c = false) :
    strip (blockText (first :: middle ++ [last])) =
      lstrip first ++ '\n' :: blockText middle ++ rstrip last := by
  have hlast' : ∃ c ∈ last ++ ['\n'], pyIsSpace c = false := by
    obtain ⟨c, hc, hsp⟩ := hlast
    exact ⟨c, List.mem_append_left _ hc, hsp⟩
  have htext : blockText (first :: middle ++ [last]) =
      first ++ '\n' :: blockText middle ++ (last ++ ['\n']) := by simp
  rw [strip, htext, List.append_assoc, lstrip_append hfirst, ← List.append_assoc,
    rstrip_append _ hlast', rstrip_append_space _ pyIsSpace_newline]

/-- The stripped text of a block, with a newline, is the text of a block whose lines lie in
the original ones, and stripping that text gives the same certificate. -/
lemma IsBlock.strip_blockText {lines : List (List Char)} (hb : IsBlock lines) :
    ∃ lines', IsBlock lines' ∧ (∀ l' ∈ lines', ∃ l ∈ lines, l' <:+: l) ∧
      strip (blockText lines) ++ ['\n'] = blockText lines' ∧
      strip (blockText lines') = strip (blockText lines) := by
  cases hb with
  | @single line hbegin hend =>
    have hline : strip (blockText [line]) = strip line := by
      rw [blockText_cons, blockText_nil, strip_append_space _ pyIsSpace_newline]
    refine ⟨[strip line], .single (begin_infix_strip hbegin).2.2 (end_infix_strip hend).2.2,
      by simpa using strip_infix_self _, by rw [hline]; simp, ?_⟩
    rw [hline, blockText_cons, blockText_nil, strip_append_space _ pyIsSpace_newline,
      strip_strip]
  | @multi first last middle hbegin hfirst hmiddle hend =>
    have hb' : IsBlock (lstrip first :: middle ++ [rstrip last]) :=
      .multi (begin_infix_strip hbegin).1 (fun h => hfirst (h.trans (lstrip_infix_self _))) hmiddle
        (end_infix_strip hend).2.1
    refine ⟨_, hb', ?_, ?_, ?_⟩
    · simp only [List.mem_cons, List.mem_append, List.not_mem_nil, or_false]
      rintro l' ((rfl | hl') | rfl)
      · exact ⟨first, by simp, lstrip_infix_self _⟩
      · exact ⟨l', by simp [hl'], List.infix_refl _⟩
      · exact ⟨last, by simp, rstrip_infix_self _⟩
    · rw [strip_blockText_multi _ (exists_not_space_of_begin hbegin)
        (exists_not_space_of_end hend)]
      simp
    · rw [strip_blockText_multi _ (exists_not_space_of_begin (begin_infix_strip hbegin).1)
          (exists_not_space_of_end (end_infix_strip hend).2.1),
        strip_blockText_multi _ (exists_not_space_of_begin hbegin)
          (exists_not_space_of_end hend), lstrip_lstrip, rstrip_rstrip]

/-! ### The loop -/

section Loop

variable {loadPem : List Char → Except String Unit} {whichCert : String}

lemma appendLine_of_ne_nil {aCert : List Char} (h : aCert ≠ []) (line : List Char) :
    appendLine aCert line = aCert ++ line ++ ['\n'] := by
  simp [appendLine, h]

lemma appendLine_nil (line : List Char) :
    appendLine [] line = if beginCertificate <:+: line then line ++ ['\n'] else [] := by
  simp [appendLine]

lemma certificateLine_of_not_end {certs : List (List Char)} {aCert line : List Char}
    (h : ¬ endCertificate <:+: line) :
    certificateLine loadPem whichCert (certs, aCert) line = .ok (certs, appendLine aCert line) := by
  simp [certificateLine, h]

lemma certificateLine_of_end {certs : List (List Char)} {aCert line : List Char}
    (h : endCertificate <:+: line) (hascii : isAscii (appendLine aCert line))
    (hload : loadPem (appendLine aCert line) = .ok ()) :
    certificateLine loadPem whichCert (certs, aCert) line =
      .ok (certs ++ [strip (appendLine aCert line)], []) := by
  simp [certificateLine, h, hascii, hload]

/-- An END line the loop gets past: its block was ASCII, and the loader accepted it. -/
lemma certificateLine_end_ok {certs : List (List Char)} {aCert line : List Char}
    {st : List (List Char) × List Char} (h : endCertificate <:+: line)
    (hok : certificateLine loadPem whichCert (certs, aCert) line = .ok st) :
    isAscii (appendLine aCert line) ∧ loadPem (appendLine aCert line) = .ok () ∧
      st = (certs ++ [strip (appendLine aCert line)], []) := by
  simp only [certificateLine, h, ↓reduceIte] at hok
  split_ifs at hok with hascii
  split at hok
  · next hload => exact ⟨hascii, hload, (Except.ok.inj hok).symm⟩
  · cases hok

/-- Inside a block, lines without the END marker are added to it. -/
lemma foldlM_certificateLine_middle {certs : List (List Char)} {aCert : List Char}
    (ha : aCert ≠ []) {middle : List (List Char)}
    (hm : ∀ l ∈ middle, ¬ endCertificate <:+: l) :
    middle.foldlM (certificateLine loadPem whichCert) (certs, aCert) =
      .ok (certs, aCert ++ blockText middle) := by
  induction middle generalizing aCert with
  | nil => simp
  | cons line middle ih =>
    rw [List.foldlM_cons, certificateLine_of_not_end (hm line (List.mem_cons_self _ _)),
      except_ok_bind, appendLine_of_ne_nil ha,
      ih (by simp) (fun l hl => hm l (List.mem_cons_of_mem _ hl))]
    simp

/-- From outside any block, the loop reads a whole block to the certificate it keeps. -/
lemma IsBlock.foldlM_certificateLine {lines : List (List Char)} (hb : IsBlock lines)
    (hascii : isAscii (blockText lines)) (hload : loadPem (blockText lines) = .ok ())
    (certs : List (List Char)) :
    lines.foldlM (certificateLine loadPem whichCert) (certs, []) =
      .ok (certs ++ [strip (blockText lines)], []) := by
  cases hb with
  | @single line hbegin hend =>
    have happ : appendLine [] line = blockText [line] := by simp [appendLine_nil, hbegin]
    rw [List.foldlM_cons, certificateLine_of_end hend (happ ▸ hascii) (happ ▸ hload),
      except_ok_bind, happ]
    rfl
  | @multi first last middle hbegin hfirst hmiddle hend =>
    have happ : appendLine (first ++ ['\n'] ++ blockText middle) last =
        blockText (first :: middle ++ [last]) := by
      rw [appendLine_of_ne_nil (by simp)]
      simp
    rw [List.foldlM_append, List.foldlM_cons, certificateLine_of_not_end hfirst, except_ok_bind,
      appendLine_nil, if_pos hbegin, foldlM_certificateLine_middle (by simp) hmiddle,
      except_ok_bind, List.foldlM_cons,
      certificateLine_of_end hend (happ ▸ hascii) (happ ▸ hload), except_ok_bind, happ]
    rfl

/-- A certificate the loop keeps: with a newline it is the text of a block of lines without
newlines, ASCII and accepted by the loader, which strips back to it. -/
def KeptCertificate (loadPem : List Char → Except String Unit) (cert : List Char) : Prop :=
  ∃ lines, IsBlock lines ∧ (∀ l ∈ lines, '\n' ∉ l) ∧
    cert ++ ['\n'] = blockText lines ∧ strip (blockText lines) = cert ∧
      isAscii (blockText lines) ∧ loadPem (blockText lines) = .ok ()

/-- The loop reads a kept certificate back to itself. -/
lemma KeptCertificate.foldlM {cert : List Char} (hk : KeptCertificate loadPem cert)
    (certs : List (List Char)) :
    (cert.splitOn '\n').foldlM (certificateLine loadPem whichCert) (certs, []) =
      .ok (certs ++ [cert], []) := by
  obtain ⟨lines, hb, hnl, htext, hstrip, hascii, hload⟩ := hk
  have hne : lines ≠ [] := by cases hb <;> simp
  have hcert : cert = ['\n'].intercalate lines :=
    List.append_cancel_right (htext.trans (intercalate_append_newline hne).symm)
  rw [hcert, List.splitOn_intercalate lines '\n' hnl hne, hb.foldlM_certificateLine hascii hload,
    hstrip, ← hcert]

section Assumptions

variable (hstrip : ∀ b, loadPem b = .ok () ↔ loadPem (strip b) = .ok ())
include hstrip

/-- The certificate the loop keeps from a block it accepts. -/
lemma IsBlock.keptCertificate {lines : List (List Char)} (hb : IsBlock lines)
    (hnl : ∀ l ∈ lines, '\n' ∉ l) (hascii : isAscii (blockText lines))
    (hload : loadPem (blockText lines) = .ok ()) :
    KeptCertificate loadPem (strip (blockText lines)) := by
  obtain ⟨lines', hb', hin, htext, hss⟩ := hb.strip_blockText
  refine ⟨lines', hb', ?_, htext, hss, ?_, ?_⟩
  · intro l' hl' hnl'
    obtain ⟨l, hl, hinf⟩ := hin l' hl'
    exact hnl l hl (hinf.subset hnl')
  · simp only [isAscii, List.all_eq_true] at hascii ⊢
    rw [← htext]
    intro c hc
    rcases List.mem_append.mp hc with hc | hc
    · exact hascii c ((strip_infix_self _).subset hc)
    · simp at hc; subst hc; decide
  · rw [hstrip, hss, ← hstrip]
    exact hload

/-- What the loop holds as it reads: certificates it keeps, and either no block or a block
that has begun and not ended. -/
def LoopInv (loadPem : List Char → Except String Unit) : List (List Char) × List Char → Prop
  | (certs, aCert) => (∀ c ∈ certs, KeptCertificate loadPem c) ∧
      (aCert = [] ∨ ∃ first middle, aCert = blockText (first :: middle) ∧
        beginCertificate <:+: first ∧
          ∀ l ∈ first :: middle, ¬ endCertificate <:+: l ∧ '\n' ∉ l)

/-- The certificate kept at an END line. An END line outside any block hands the loader the
empty block, which it refuses. -/
lemma LoopInv.kept_at_end (hempty : loadPem [] ≠ .ok ()) {certs : List (List Char)}
    {aCert line : List Char} (hinv : LoopInv loadPem (certs, aCert)) (hline : '\n' ∉ line)
    (hend : endCertificate <:+: line) (hascii : isAscii (appendLine aCert line))
    (hload : loadPem (appendLine aCert line) = .ok ()) :
    KeptCertificate loadPem (strip (appendLine aCert line)) := by
  rcases hinv.2 with rfl | ⟨first, middle, rfl, hbegin, hlines⟩
  · rw [appendLine_nil] at hascii hload ⊢
    split_ifs at hascii hload ⊢ with hb
    · have htext : line ++ ['\n'] = blockText [line] := by simp
      rw [htext] at hascii hload ⊢
      exact (IsBlock.single hb hend).keptCertificate hstrip (by simpa using hline) hascii hload
    · exact absurd hload hempty
  · have htext : appendLine (blockText (first :: middle)) line =
        blockText (first :: middle ++ [line]) := by
      rw [appendLine_of_ne_nil (by simp)]
      simp
    rw [htext] at hascii hload ⊢
    have hb : IsBlock (first :: middle ++ [line]) :=
      .multi hbegin (hlines first (List.mem_cons_self _ _)).1
        (fun l hl => (hlines l (List.mem_cons_of_mem _ hl)).1) hend
    refine hb.keptCertificate hstrip ?_ hascii hload
    intro l hl
    rcases List.mem_append.mp hl with hl | hl
    · exact (hlines l hl).2
    · exact (List.mem_singleton.mp hl) ▸ hline

/-- One line keeps the invariant. -/
lemma LoopInv.step (hempty : loadPem [] ≠ .ok ()) {st st' : List (List Char) × List Char}
    {line : List Char} (hinv : LoopInv loadPem st) (hline : '\n' ∉ line)
    (h : certificateLine loadPem whichCert st line = .ok st') : LoopInv loadPem st' := by
  obtain ⟨certs, aCert⟩ := st
  by_cases hend : endCertificate <:+: line
  · obtain ⟨hascii, hload, rfl⟩ := certificateLine_end_ok hend h
    have hnew := hinv.kept_at_end hstrip hempty hline hend hascii hload
    refine ⟨fun c hc => ?_, Or.inl rfl⟩
    rcases List.mem_append.mp hc with hc | hc
    · exact hinv.1 c hc
    · exact (List.mem_singleton.mp hc) ▸ hnew
  · rw [certificateLine_of_not_end hend] at h
    cases h
    refine ⟨hinv.1, ?_⟩
    rcases hinv.2 with rfl | ⟨first, middle, rfl, hbegin, hlines⟩
    · rw [appendLine_nil]
      split_ifs with hb
      · exact Or.inr ⟨line, [], by simp, hb, by simp [hend, hline]⟩
      · exact Or.inl rfl
    · refine Or.inr ⟨first, middle ++ [line], ?_, hbegin, ?_⟩
      · rw [appendLine_of_ne_nil (by simp)]
        simp
      · intro l hl
        rcases List.mem_append.mp (List.cons_append _ _ _ ▸ hl) with hl | hl
        · exact hlines l hl
        · exact (List.mem_singleton.mp hl) ▸ ⟨hend, hline⟩

/-- The loop, over any value, keeps only certificates. -/
lemma loopInv_certificateBlocks (hempty : loadPem [] ≠ .ok ()) {value : String}
    {st : List (List Char) × List Char} (h : certificateBlocks loadPem whichCert value = .ok st) :
    LoopInv loadPem st :=
  foldlM_except_of_step (LoopInv loadPem) _
    (fun _ _ hline _ hinv hstep => hinv.step hstrip hempty (not_mem_of_mem_splitOn hline) hstep)
    ([], []) st ⟨by simp, Or.inl rfl⟩ h

end Assumptions

/-- The lines of the text of some lines: the pieces of each, then an empty one. -/
lemma splitOn_blockText (lines : List (List Char)) :
    (blockText lines).splitOn '\n' = (lines.map (List.splitOn '\n')).flatten ++ [[]] := by
  induction lines with
  | nil => rfl
  | cons line lines ih => rw [blockText_cons, splitOn_append_sep, ih]; simp

/-- The loop reads the lines of kept certificates back to those certificates. -/
lemma foldlM_keptCertificates {certs : List (List Char)}
    (hk : ∀ c ∈ certs, KeptCertificate loadPem c) (kept : List (List Char)) :
    ((certs.map (List.splitOn '\n')).flatten ++ [[]]).foldlM (certificateLine loadPem whichCert)
      (kept, []) = .ok (kept ++ certs, []) := by
  induction certs generalizing kept with
  | nil =>
    rw [List.map_nil, List.flatten_nil, List.nil_append, List.foldlM_cons,
      certificateLine_of_not_end (by decide), appendLine_nil, if_neg (by decide)]
    simp
  | cons cert certs ih =>
    rw [List.map_cons, List.flatten_cons, List.append_assoc, List.foldlM_append,
      (hk cert (List.mem_cons_self _ _)).foldlM, except_ok_bind,
      ih (fun c hc => hk c (List.mem_cons_of_mem _ hc))]
    simp

/-- A value `validate_certificate` accepts: the loop kept some certificates, and the result
is their join. -/
lemma validateCertificate_eq_some {value s : String}
    (h : validateCertificate loadPem whichCert (some value) = .ok (some s)) :
    ∃ certs aCert, certificateBlocks loadPem whichCert value = .ok (certs, aCert) ∧
      certs ≠ [] ∧ s = String.mk (['\n'].intercalate certs ++ ['\n']) := by
  simp only [validateCertificate] at h
  split_ifs at h
  · cases h
  split at h
  · cases h
  · next certs aCert hblocks =>
    split_ifs at h with hne
    cases h
    exact ⟨certs, aCert, hblocks, hne, rfl⟩

end Loop

/-- When the loader accepts a block exactly when it accepts it stripped, and refuses the
empty block as `load_pem_x509_certificate` does, every result of `validate_certificate`
validates to itself, through the same certificates. -/
theorem validateCertificate_revalidates (loadPem : List Char → Except String Unit)
    (whichCert : String) (hstrip : ∀ b, loadPem b = .ok () ↔ loadPem (strip b) = .ok ())
    (hempty : loadPem [] ≠ .ok ()) (v s : String)
    (h : validateCertificate loadPem whichCert (some v) = .ok (some s)) :
    validateCertificate loadPem whichCert (some s) = .ok (some s) ∧
      (certificateBlocks loadPem whichCert s).map Prod.fst =
        (certificateBlocks loadPem whichCert v).map Prod.fst := by
  obtain ⟨certs, aCert, hblocks, hne, rfl⟩ := validateCertificate_eq_some h
  have hkept := (loopInv_certificateBlocks hstrip hempty hblocks).1
  have hs : certificateBlocks loadPem whichCert (String.mk (['\n'].intercalate certs ++ ['\n'])) =
      .ok (certs, []) := by
    have hloop : ((certs.map (List.splitOn '\n')).flatten ++ [[]]).foldlM
        (certificateLine loadPem whichCert) ([], []) = .ok ([] ++ certs, []) :=
      foldlM_keptCertificates hkept []
    rw [certificateBlocks, String.toList, intercalate_append_newline hne, splitOn_blockText, hloop,
      List.nil_append]
  refine ⟨?_, by rw [hs, hblocks]; rfl⟩
  have hnonempty : String.mk (['\n'].intercalate certs ++ ['\n']) ≠ "" := by
    intro h'
    simpa using congrArg String.data h'
  simp only [validateCertificate, hnonempty, hs, hne, ↓reduceIte]

/-- A loader that refuses exactly the blocks that strip to nothing. -/
def refuseBlank (b : List Char) : Except String Unit :=
  if strip b = [] then .error "empty block" else .ok ()

/-- A certificate after a comment line, as `test_certificate_clean` gives it. -/
def commentedCertificate : String :=
  "A comment\n-----BEGIN CERTIFICATE-----\nMIIB\n-----END CERTIFICATE-----\n"

/-- The same certificate without the comment. -/
def cleanCertificate : String :=
  "-----BEGIN CERTIFICATE-----\nMIIB\n-----END CERTIFICATE-----\n"

theorem validateCertificate_revalidates_commented :
    validateCertificate refuseBlank "ca_cert" (some commentedCertificate) =
        .ok (some cleanCertificate) ∧
      validateCertificate refuseBlank "ca_cert" (some cleanCertificate) =
        .ok (some cleanCertificate) ∧
      (certificateBlocks refuseBlank "ca_cert" cleanCertificate).map Prod.fst =
        (certificateBlocks refuseBlank "ca_cert" commentedCertificate).map Prod.fst :=
  have h : validateCertificate refuseBlank "ca_cert" (some commentedCertificate) =
      .ok (some cleanCertificate) := by decide
  ⟨h, validateCertificate_revalidates refuseBlank "ca_cert"
    (fun b => by simp only [refuseBlank, strip_strip]) (by decide) _ _ h⟩

end Pulpcore
