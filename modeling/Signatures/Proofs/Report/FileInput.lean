import Signatures.Proofs.Text.Lines
import Signatures.Proofs.Text.Trimming
import Signatures.Report.Run

/-!
# Texts from a file

The lines of a file that are not blank are read as if they were further words of the command line. A
file is read as a whole before any text, so that nothing but the failure is written when it cannot
be read.
-/

namespace Signatures

open Text
set_option autoImplicit false

variable {files : Files} {filter : Log.Filter} {words more : List String} {file : String}
  {bytes : ByteArray} {failure : ReadFailure} {s : String}

/-- The lines that do not consist of blank characters. -/
def LinedText.signatures (t : LinedText) : List String :=
  t.lines.filter fun l => ¬ IsBlank l.toList

/-- A file cannot be read, or its bytes are not those of a text. -/
inductive Files.FailsWith (files : Files) (file : String) : ReadFailure → Prop
  | unreadable {failure : ReadFailure} : files file = .error failure → FailsWith files file failure
  | notText {bytes : ByteArray} : files file = .ok bytes → (∀ s : String, s.toUTF8 ≠ bytes) →
      FailsWith files file .notText

theorem fromUTF8?_eq_some_iff : String.fromUTF8? bytes = some s ↔ s.toUTF8 = bytes := by
  unfold String.fromUTF8?
  constructor
  · intro h
    split at h
    · obtain rfl := Option.some.inj h
      rfl
    · simp at h
  · rintro rfl
    rw [String.toUTF8_eq_toByteArray, dif_pos s.isValidUTF8]
    rfl

theorem fromUTF8?_eq_none_iff : String.fromUTF8? bytes = none ↔ ∀ s : String, s.toUTF8 ≠ bytes := by
  simp only [Option.eq_none_iff_forall_ne_some, ne_eq, fromUTF8?_eq_some_iff]

/-- Whether the last line is missing or empty, it is no signature. -/
theorem LinedText.filter_lines_content (t : LinedText) :
    (Text.lines t.content.toList).filter (trim · ≠ []) =
      (t.lines.map String.toList).filter (trim · ≠ []) := by
  have hnil : trim [] = [] := rfl
  rw [t.lines_content, lines]
  cases t.last with
  | none => simp [Function.comp_def]
  | some l =>
    by_cases hl : l.text.toList = []
    · simp [Function.comp_def, hl, hnil]
    · simp [Function.comp_def, hl]

theorem signaturesOfBytes_content (t : LinedText) :
    signaturesOfBytes t.content.toUTF8 = .ok t.signatures := by
  rw [signaturesOfBytes, fromUTF8?_eq_some_iff.mpr rfl]
  dsimp only
  rw [t.filter_lines_content]
  simp [LinedText.signatures, List.filter_map, Function.comp_def, trim_eq_nil_iff]

theorem Files.signatures_content {t : LinedText} (h : files file = .ok t.content.toUTF8) :
    files.signatures file = .ok t.signatures := by
  rw [Files.signatures, h]
  exact signaturesOfBytes_content t

theorem Files.FailsWith.signatures (h : files.FailsWith file failure) :
    files.signatures file = .error failure := by
  cases h with
  | unreadable hfile =>
    rw [Files.signatures, hfile]
    rfl
  | notText hfile hbytes =>
    rw [Files.signatures, hfile]
    change signaturesOfBytes _ = _
    rw [signaturesOfBytes, fromUTF8?_eq_none_iff.mpr hbytes]

theorem parseWithFile_of_ok (h : files.signatures file = .ok more) :
    parseWithFile files filter words (some file) =
      parseWithFile files filter (words ++ more) none := by
  rw [parseWithFile, parseWithFile, h]

theorem parseWithFile_of_error (h : files.signatures file = .error failure) :
    parseWithFile files filter words (some file) = ⟨[.unreadable file failure], 1⟩ := by
  rw [parseWithFile, h]

/-- A file is read like further words, its lines that are not blank. So blank lines, the ends of the
lines and an end missing behind the last one are not seen in the outcome. When the file fails, the
failure is all that is written. -/
theorem parseWithFile_agrees_with_words (files : Files) (filter : Log.Filter)
    (words : List String) (file : String) :
    (∀ t : LinedText, files file = .ok t.content.toUTF8 →
      parseWithFile files filter words (some file) =
        parseWithFile files filter (words ++ t.signatures) none) ∧
    (∀ (t t' : LinedText) (file' : String), files file = .ok t.content.toUTF8 →
      files file' = .ok t'.content.toUTF8 → t.signatures = t'.signatures →
      parseWithFile files filter words (some file) =
        parseWithFile files filter words (some file')) ∧
    ∀ failure, files.FailsWith file failure →
      let run := parseWithFile files filter words (some file)
      run = ⟨[.unreadable file failure], 1⟩ ∧ run.stdout = "" ∧
        run.stderr = "Error: failed to read `" ++ file ++ "`\n\nCaused by:\n    " ++
          failure.reason ++ "\n" := by
  refine ⟨?_, ?_, ?_⟩
  · intro t ht
    exact parseWithFile_of_ok (Files.signatures_content ht)
  · intro t t' file' ht ht' hsame
    rw [parseWithFile_of_ok (Files.signatures_content ht),
      parseWithFile_of_ok (Files.signatures_content ht'), hsame]
  · intro failure hfailure
    dsimp only
    rw [parseWithFile_of_error hfailure.signatures]
    refine ⟨rfl, ?_, ?_⟩
    · simp [Outcome.stdout]
    · simp [Outcome.stderr]

/-- Two signatures with a blank line between them, in a text whose lines end in different ways. -/
def mixedLines : LinedText where
  ended :=
    [(⟨"int f", by decide, by decide⟩, .returnFeed),
     (⟨"\u2028\u00a0", by decide, by decide⟩, .feed)]
  last := some ⟨"g()", by decide, by decide⟩

/-- The same signatures, every line with the same end. -/
def plainLines : LinedText where
  ended :=
    [(⟨"int f", by decide, by decide⟩, .feed), (⟨"g()", by decide, by decide⟩, .feed)]
  last := none

theorem parseWithFile_agrees_with_words_mixed :
    let files : Files := fun file =>
      if file = "mixed" then .ok "int f\r\n\u2028\u00a0\ng()".toUTF8
      else if file = "plain" then .ok "int f\ng()\n".toUTF8
      else .ok ⟨#[0x69, 0xff]⟩
    parseWithFile files (.ofVerbosity 1) ["h"] (some "mixed") =
        parseWithFile files (.ofVerbosity 1) ["h", "int f", "g()"] none ∧
      parseWithFile files (.ofVerbosity 1) ["h"] (some "mixed") =
        parseWithFile files (.ofVerbosity 1) ["h"] (some "plain") ∧
      (files.FailsWith "bytes" .notText ∧
        parseWithFile files (.ofVerbosity 1) ["h"] (some "bytes") =
          ⟨[.unreadable "bytes" .notText], 1⟩) := by
  intro files
  have hmixed : files "mixed" = .ok mixedLines.content.toUTF8 := rfl
  have hplain : files "plain" = .ok plainLines.content.toUTF8 := rfl
  have hsignatures : mixedLines.signatures = ["int f", "g()"] := by decide
  have hsame : mixedLines.signatures = plainLines.signatures := by decide
  have hfails : files.FailsWith "bytes" .notText :=
    .notText rfl (fromUTF8?_eq_none_iff.mp (by decide +kernel))
  obtain ⟨hwords, hagain, -⟩ :=
    parseWithFile_agrees_with_words files (.ofVerbosity 1) ["h"] "mixed"
  obtain ⟨-, -, hfailure⟩ := parseWithFile_agrees_with_words files (.ofVerbosity 1) ["h"] "bytes"
  have hfirst := hwords mixedLines hmixed
  rw [hsignatures] at hfirst
  exact ⟨hfirst, hagain mixedLines plainLines "plain" hmixed hplain hsame, hfails,
    (hfailure _ hfails).1⟩

end Signatures
