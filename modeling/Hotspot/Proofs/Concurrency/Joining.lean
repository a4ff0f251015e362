/-
# Templates joined at a line end

A line end is a byte below `80`, so the bytes on either side of it are read on their own,
whatever they are: a sequence that is broken off ends at the line end, and what is left of
one begins after it. As the lines on either side are read one after the other too, a
template is read as its two parts, the second one on the setting that the first one gives
(`load_joined`). It makes no difference whether the parts are joined by `LF`, `CR` or
`CR LF`, nor that the second part may begin with an `LF`.
-/

import Hotspot.Proofs.Concurrency.Directives
import Hotspot.Proofs.Store.Loading

namespace Hotspot

variable {fs : FileSystem} {p : Path} {content : Bytes}

/-! ## Files -/

/-- A file is found at a path, with some bytes. -/
structure FileSystem.HasFile (fs : FileSystem) (p : Path) (content : Bytes) : Prop where
  nameFault : p.nameFault? = none
  entry : ∃ mode, fs.entryAt? p = some (.file content mode)

/-- A file that is there is read. -/
theorem FileSystem.HasFile.read_eq (h : fs.HasFile p content) : fs.read p = .ok content := by
  obtain ⟨mode, hentry⟩ := h.entry
  exact read_of_entryAt? hentry

/-- And it is found. -/
theorem FileSystem.HasFile.isFile_eq (h : fs.HasFile p content) : fs.isFile p = .ok true := by
  obtain ⟨mode, hentry⟩ := h.entry
  rw [isFile, probe, h.nameFault, entry?_of_entryAt? hentry]
  rfl

namespace Concurrency

/-! ## Bytes -/

/-- The bytes that end a line. -/
def lineEndings : List Bytes := [[0x0A], [0x0D], [0x0D, 0x0A]]

/-- Bytes before and behind a line end are read one after the other, since decoding does not
reach across it. -/
theorem readLines_fileLines_append_cons (c : Concurrency) {e : UInt8}
    (he : e = 0x0A ∨ e = 0x0D) (a b : Bytes) :
    c.readLines (fileLines (a ++ e :: b)) =
      (c.readLines (fileLines a) >>= fun c' => c'.readLines (fileLines b)) := by
  have hlow : e < 0x80 ∧ Text.isLineEnd (CodePoint.ofNat e.toNat) = true := by
    rcases he with rfl | rfl <;> decide
  rw [fileLines, Utf8.decodeReplacing_append_cons hlow.1, readLines_lines_append_cons c hlow.2]
  rfl

/-- An empty part gives the setting that it is read on. -/
theorem readLines_fileLines_nil (c : Concurrency) : c.readLines (fileLines []) = .ok c := by
  rw [fileLines, Utf8.decodeReplacing_nil]
  rfl

/-- Bytes before and behind any line end are read one after the other, one of two bytes
included. -/
theorem readLines_fileLines_append (c : Concurrency) {ending : Bytes}
    (hending : ending ∈ lineEndings) (a b : Bytes) :
    c.readLines (fileLines (a ++ ending ++ b)) =
      (c.readLines (fileLines a) >>= fun c' => c'.readLines (fileLines b)) := by
  rw [List.append_assoc]
  obtain rfl | rfl | rfl : ending = [0x0A] ∨ ending = [0x0D] ∨ ending = [0x0D, 0x0A] := by
    simpa [lineEndings] using hending
  · exact readLines_fileLines_append_cons c (.inl rfl) a b
  · exact readLines_fileLines_append_cons c (.inr rfl) a b
  · -- the two bytes are two line ends, with an empty part between them
    have hempty (c' : Concurrency) :
        c'.readLines (fileLines ([0x0A] ++ b)) = c'.readLines (fileLines b) := by
      have h := readLines_fileLines_append_cons c' (.inl rfl) [] b
      rw [readLines_fileLines_nil] at h
      exact h
    have h := readLines_fileLines_append_cons c (.inr rfl) a ([0x0A] ++ b)
    simp only [hempty] at h
    exact h

/-! ## Templates -/

/-- A template that is there is read, and what comes of it is told by its lines. -/
theorem load_of_hasFile (h : fs.HasFile p content) (c : Concurrency) :
    ∃ reading, load fs p c = .ok reading ∧
      reading.result = c.readLines (fileLines content) := by
  rw [load, h.isFile_eq, h.read_eq]
  exact ⟨_, rfl, readEach_eq_readLines c _⟩

/-- **A template is read as its parts.** Let two templates hold the bytes on either side of a
line end of a third one, any bytes. All three are read, and on any setting:

* where the reading of the first part is ended by a number of too many digits, that of the
  whole is ended by the same;
* otherwise the whole gives what the second part gives on the setting of the first part, or
  is ended as its reading is. -/
theorem load_joined {fs₁ fs₂ : FileSystem} {p₁ p₂ : Path} {a b ending : Bytes}
    (hending : ending ∈ lineEndings) (h : fs.HasFile p (a ++ ending ++ b))
    (h₁ : fs₁.HasFile p₁ a) (h₂ : fs₂.HasFile p₂ b) (c : Concurrency) :
    ∃ whole first, load fs p c = .ok whole ∧ load fs₁ p₁ c = .ok first ∧
      (∀ e, first.result = .error e → whole.result = .error e) ∧
      ∀ c₁, first.result = .ok c₁ →
        ∃ second, load fs₂ p₂ c₁ = .ok second ∧ whole.result = second.result := by
  obtain ⟨whole, hwhole, hresult⟩ := load_of_hasFile h c
  obtain ⟨first, hfirst, hresult₁⟩ := load_of_hasFile h₁ c
  rw [readLines_fileLines_append c hending, ← hresult₁] at hresult
  refine ⟨whole, first, hwhole, hfirst, fun e he => ?_, fun c₁ hc₁ => ?_⟩
  · rw [hresult, he]
    rfl
  · obtain ⟨second, hsecond, hresult₂⟩ := load_of_hasFile h₂ c₁
    refine ⟨second, hsecond, ?_⟩
    rw [hresult, hc₁, hresult₂]
    rfl

/-- A template that is broken off in a sequence of four bytes. -/
def brokenFirst : Bytes := Utf8.encode "SAP_CHANNEL:6\n" ++ [0xF0, 0x9F]

/-- A template that begins with a byte of a sequence. -/
def brokenSecond : Bytes := 0x98 :: Utf8.encode "\nENABLE_STA_SAP_CONCURRENCY:1"

/-- The two templates, and the two joined by `CR LF`. -/
def brokenFiles : FileSystem where
  workingDirectory := .root
  entries := [
    (Location.root.child (Path.bytes "whole"),
      .file (brokenFirst ++ [0x0D, 0x0A] ++ brokenSecond) 0o644),
    (Location.root.child (Path.bytes "first"), .file brokenFirst 0o644),
    (Location.root.child (Path.bytes "second"), .file brokenSecond 0o644)]

/-- What is broken on either side of the line end changes nothing. -/
theorem load_joined_of_broken :
    [0x0D, 0x0A] ∈ lineEndings ∧
    brokenFiles.HasFile (Path.ofText "whole") (brokenFirst ++ [0x0D, 0x0A] ++ brokenSecond) ∧
    brokenFiles.HasFile (Path.ofText "first") brokenFirst ∧
    brokenFiles.HasFile (Path.ofText "second") brokenSecond ∧
    ∃ whole first second : Reading,
      load brokenFiles (Path.ofText "whole") {} = .ok whole ∧
      load brokenFiles (Path.ofText "first") {} = .ok first ∧
      first.result = .ok { channel := 6 } ∧
      load brokenFiles (Path.ofText "second") { channel := 6 } = .ok second ∧
      whole.result = second.result ∧
      second.result = .ok { stationAllowed := true, channel := 6 } := by
  have hending : [0x0D, 0x0A] ∈ lineEndings := by decide
  have hwhole : brokenFiles.HasFile (Path.ofText "whole")
      (brokenFirst ++ [0x0D, 0x0A] ++ brokenSecond) := ⟨by decide, 0o644, by decide +kernel⟩
  have hfirst : brokenFiles.HasFile (Path.ofText "first") brokenFirst :=
    ⟨by decide, 0o644, by decide +kernel⟩
  have hsecond : brokenFiles.HasFile (Path.ofText "second") brokenSecond :=
    ⟨by decide, 0o644, by decide +kernel⟩
  obtain ⟨whole, first, hw, hf, -, hthen⟩ := load_joined hending hwhole hfirst hsecond {}
  have hchannel : first.result = .ok { channel := 6 } := by
    obtain ⟨first', hf', hresult⟩ := load_of_hasFile hfirst {}
    obtain rfl : first = first' := Except.ok.inj (hf.symm.trans hf')
    rw [hresult]
    decide +kernel
  obtain ⟨second, hs, hsame⟩ := hthen _ hchannel
  have hstation : second.result = .ok { stationAllowed := true, channel := 6 } := by
    obtain ⟨second', hs', hresult⟩ := load_of_hasFile hsecond { channel := 6 }
    obtain rfl : second = second' := Except.ok.inj (hs.symm.trans hs')
    rw [hresult]
    decide +kernel
  exact ⟨hending, hwhole, hfirst, hsecond, whole, first, second, hw, hf, hchannel, hs, hsame,
    hstation⟩

end Concurrency
end Hotspot
