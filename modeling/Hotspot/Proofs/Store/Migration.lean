/-
# From version 1 to version 2

A file of version 1 is read, but never written. A store loads it and leaves it as it is,
and the first time that a configuration is set and written there, the file becomes one of
version 2. Nothing of what it means is lost on the way, since what was read is in
canonical form already:

| step | file | configuration |
| --- | --- | --- |
| before | version 1 | `c` |
| a store starts | the same bytes | `c` |
| what it hands out is set again | version 2 | `c` |
-/

import Hotspot.Proofs.Config.Meaning
import Hotspot.Proofs.Config.Versions
import Hotspot.Proofs.Store.Durability
import Hotspot.Proofs.Store.Loading

namespace Hotspot

open Config (Stored stringField int32)

variable {c : Config}

namespace Config

/-- What is written has the current version. -/
theorem signed_take_of_encode {bytes : Bytes} (h : c.encode = .ok bytes) :
    signed (bytes.take 4) = currentVersion := by
  obtain ⟨f, rfl, hwrites⟩ := Parts.encode_iff.1 h
  rw [Parts.bytes, List.take_left' (length_int32 _), signed_int32 f.fitsInt32_version]
  exact hwrites.isCanonical.version

end Config

namespace Store

variable {r r' : Running}

/-- A configuration that is set is on file if the reply says so. -/
theorem stored_of_reply_set (h : reply (.set (some c)) r = .ok (.written true) r') :
    Stored r.store.path c r'.world.files := by
  have hset := ends_set r (some c)
  cases hr : set (some c) r with
  | ok written r₁ =>
    cases (reply_set_of_ok hr).symm.trans h
    obtain ⟨_, hadopted, -, hstored⟩ := hset.of_ok hr
    cases hadopted
    exact hstored
  | error e r₁ => cases (reply_set_of_error hr).symm.trans h

/-- **Changing the version keeps the meaning.** A file of version 1 is read as the file of
version 2 that has two zeros where the first has nothing, or fails in the same way as that
one. And a store that starts on a file that is read, of whatever version, leaves all files
as they are, even if it does not come to run. If it runs and what it hands out is set
again, with any calls made to fail, and the reply is that it is on file, then there is a
file of version 2 that is read as the same configuration. -/
theorem migration :
    (∀ payload rest : Bytes, payload.length ≤ 0xFFFF →
      (Config.decode (int32 1 ++ (stringField payload ++ rest))).mapError Config.DecodeError.kind =
        (Config.decode (int32 2 ++ (stringField payload ++ (int32 0 ++ (int32 0 ++ rest))))).mapError
          Config.DecodeError.kind) ∧
    ∀ (o : Overlay) (p template : Path) (w : World) (bytes : Bytes) (mode : Nat) (c : Config),
      w.files.entryAt? p = some (.file bytes mode) → Config.decode bytes = .ok c →
      Ends (start o p template) w
        (fun s w' => w'.files = w.files ∧ reply .get ⟨s, w'⟩ = .ok (.config c) ⟨s, w'⟩ ∧
          ∀ faults r, reply (.set (some c)) (Running.withFaults ⟨s, w'⟩ faults) =
              .ok (.written true) r →
            ∃ bytes', r.world.files.entryAt? p = some (.file bytes' 0o600) ∧
              Config.signed (bytes'.take 4) = 2 ∧ Config.decode bytes' = .ok c)
        (fun _ w' => w'.files = w.files) := by
  refine ⟨fun payload rest hpayload => Config.kind_decode_upgrade hpayload rest, ?_⟩
  intro o p template w bytes mode c hentry hc
  refine (ends_start_of_entryAt? hentry hc o template).mono ?_ fun _ w' h => h.1
  rintro s w' ⟨hpath, hconfig, -, hfiles, -⟩
  have hget : reply .get ⟨s, w'⟩ = .ok (.config s.config) ⟨s, w'⟩ := rfl
  refine ⟨hfiles, hget.trans (by rw [hconfig]), fun faults r hr => ?_⟩
  have hstored : Stored s.path c r.world.files := stored_of_reply_set hr
  rw [hpath] at hstored
  obtain ⟨bytes', hbytes', hentry'⟩ := hstored
  have hread := Config.decode_of_encode hbytes'
  rw [Config.canon_of_decode hc] at hread
  exact ⟨bytes', hentry', Config.signed_take_of_encode hbytes', hread⟩

/-- A world with a file of version 1, with a name in four bytes of UTF-8 and a byte behind
the key. -/
def firstVersion : World where
  files := {
    workingDirectory := .root
    entries := [(Location.root.child (Path.bytes "softap.conf"),
      .file [0, 0, 0, 1, 0, 4, 0xF0, 0x9F, 0x98, 0x80, 0, 0, 0, 4, 0, 1, 0x61, 0xFF] 0o644)] }
  entropy := World.bare.entropy

/-- Its store starts, and what it hands out is on file when it is set again. -/
theorem migration_of_firstVersion :
    ∃ s w' c r bytes',
      start (Overlay.ofMembers []) (Path.ofText "softap.conf") (Path.ofText "template.txt")
        firstVersion = .ok s w' ∧ w'.files = firstVersion.files ∧
      reply .get ⟨s, w'⟩ = .ok (.config c) ⟨s, w'⟩ ∧
      reply (.set (some c)) ⟨s, w'⟩ = .ok (.written true) r ∧
      r.world.files.entryAt? (Path.ofText "softap.conf") = some (.file bytes' 0o600) ∧
      Config.signed (bytes'.take 4) = 2 ∧ Config.decode bytes' = .ok c := by
  let c : Config := {
    ssid := some [0x1F600], keyManagement := some (KeySet.singleton 4), key := some [0x61] }
  have hentry : firstVersion.files.entryAt? (Path.ofText "softap.conf") = some (.file
      [0, 0, 0, 1, 0, 4, 0xF0, 0x9F, 0x98, 0x80, 0, 0, 0, 4, 0, 1, 0x61, 0xFF] 0o644) := by decide
  have hread : Config.decode
      [0, 0, 0, 1, 0, 4, 0xF0, 0x9F, 0x98, 0x80, 0, 0, 0, 4, 0, 1, 0x61, 0xFF] = .ok c := by
    decide +kernel
  have hrun : Ends (start (Overlay.ofMembers []) (Path.ofText "softap.conf")
      (Path.ofText "template.txt")) firstVersion
      (fun s w' => Ends (reply (.set (some c))) ⟨s, w'⟩
        (fun answer _ => answer = .written true) fun _ _ => False)
      (fun _ _ => False) := by decide +kernel
  obtain ⟨s, w', hstart, hset⟩ := hrun.exists_ok
  obtain ⟨answer, r, hr, rfl⟩ := hset.exists_ok
  obtain ⟨hfiles, hget, hupgrade⟩ := (migration.2 _ _ _ _ _ _ _ hentry hread).of_ok hstart
  obtain ⟨bytes', hentry', hversion, hread'⟩ := hupgrade w'.faults r hr
  exact ⟨s, w', c, r, bytes', hstart, hfiles, hget, hr, hentry', hversion, hread'⟩

end Store
end Hotspot
