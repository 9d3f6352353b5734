import LocalSwarm.Proofs.Downloads.Steps
import LocalSwarm.Proofs.Trees
import LocalSwarm.Proofs.Wire.Texts

/-! Names of part files. The part file of a download stands beside the file and has a longer name, so
there can be room for the one and not for the other. Main statement: where the destination leads and
there is room, the part file can be made (`PartFits.leads`). -/
namespace LocalSwarm

namespace Bytes

theorem mem_hex {bytes : Bytes} {c : Char} (member : c ∈ (hex bytes).toList) :
    ∃ n < 16, c = hexDigit n := by
  rw [hex, String.toList_ofList, List.mem_flatMap] at member
  obtain ⟨byte, -, digit⟩ := member
  have := byte.toNat_lt
  rcases List.mem_cons.1 digit with high | low
  · exact ⟨_, by omega, high⟩
  · exact ⟨_, by omega, List.mem_singleton.1 low⟩

theorem hexDigit_inside : ∀ n < 16,
    (hexDigit n).toNat < 128 ∧ hexDigit n ≠ '/' ∧ hexDigit n ≠ '\x00' := by decide

theorem size_hex (bytes : Bytes) : (hex bytes).utf8ByteSize = 2 * bytes.length := by
  have ascii : ∀ c ∈ (hex bytes).toList, c.toNat < 128 := by
    intro c member
    obtain ⟨n, digit, rfl⟩ := mem_hex member
    exact (hexDigit_inside n digit).1
  have length : (hex bytes).toList.length = 2 * bytes.length := by
    rw [hex, String.toList_ofList, List.length_flatMap]
    simp only [List.length_cons, List.length_nil, List.map_const', List.sum_replicate_nat]
    exact Nat.mul_comm _ _
  have encoded := Wire.utf8_ofList_of_ascii ascii
  rw [String.ofList_toList] at encoded
  rw [← length, ← Wire.length_utf8, encoded, List.length_map]

end Bytes

open Files (Tree Location)
open Files.Path (isPlain)

namespace Download

variable {d : Download} {t : Tree}

/-- The name of the part file. -/
def partName (d : Download) : String :=
  "." ++ d.request.name ++ "." ++ Bytes.hex (Bytes.ofNat 4 d.suffix.toNat) ++ ".part"

theorem partPath_eq (d : Download) : d.partPath = Files.Path.join d.request.folder d.partName := rfl

theorem size_partName (d : Download) :
    d.partName.utf8ByteSize = d.request.name.utf8ByteSize + 15 := by
  have dot : (".").utf8ByteSize = 1 := by decide
  have ending : (".part").utf8ByteSize = 5 := by decide
  rw [partName, String.utf8ByteSize_append, String.utf8ByteSize_append, String.utf8ByteSize_append,
    String.utf8ByteSize_append, Bytes.size_hex, Bytes.length_ofNat, dot, ending]
  omega

/-- What the name of the part file ends in, after the name of the file. -/
def partEnding (d : Download) : String :=
  "." ++ Bytes.hex (Bytes.ofNat 4 d.suffix.toNat) ++ ".part"

theorem partName_eq (d : Download) : d.partName = "." ++ d.request.name ++ d.partEnding := by
  simp only [partName, partEnding, String.append_assoc]

theorem not_mem_partEnding {c : Char} (special : c = '/' ∨ c = '\x00') :
    c ∉ d.partEnding.toList := by
  have digits : c ∉ (Bytes.hex (Bytes.ofNat 4 d.suffix.toNat)).toList := by
    intro digit
    obtain ⟨n, below, rfl⟩ := Bytes.mem_hex digit
    obtain ⟨-, noSlash, noZero⟩ := Bytes.hexDigit_inside n below
    exact special.elim noSlash noZero
  have others : c ∉ (".").toList ∧ c ∉ (".part").toList := by
    rcases special with rfl | rfl <;> decide
  rw [partEnding, String.toList_append, String.toList_append, List.mem_append, List.mem_append]
  exact fun member => member.elim (fun front => front.elim others.1 digits) others.2

/-- The part file adds no slash and no zero byte to the name of the file. -/
theorem mem_partName {c : Char} (special : c = '/' ∨ c = '\x00') (member : c ∈ d.partName.toList) :
    c ∈ d.request.name.toList := by
  have dot : c ∉ (".").toList := by rcases special with rfl | rfl <;> decide
  rw [partName_eq, String.toList_append, String.toList_append, List.mem_append,
    List.mem_append] at member
  exact (member.resolve_right (not_mem_partEnding special)).resolve_left dot

/-- Room for a part file: its name and its path are longer than those of the file by fifteen bytes,
it is given its full length at once, and it must be new. -/
structure PartFits (d : Download) (t : Tree) : Prop where
  name : d.request.name.utf8ByteSize + 15 ≤ Tree.nameLimit
  path : d.request.destination.utf8ByteSize + 15 ≤ Tree.pathLimit
  length : d.size ≤ lengthLimit
  fresh : (t.lookup d.partPath).isOk = false

/-- A name that leads somewhere has no slash at all. -/
theorem not_mem_name {place : Location} (plain : isPlain d.request.name = true)
    (leads : t.Leads d.request.destination place) : '/' ∉ d.request.name.toList := by
  obtain ⟨-, noSlash, front, folder, last, split, -, -, -, dot, -⟩ := leads
  have relative := (Files.Path.components_of_isPlain plain).1
  rw [DownloadRequest.destination] at noSlash split
  refine Files.Path.not_mem_of_isPlain plain ?_ ?_
  · intro slash
    obtain ⟨base, joined⟩ := Files.Path.exists_base d.request.folder
    rw [Tree.endsWithSlash, joined _ relative, String.toList_append, List.getLast?_append,
      slash] at noSlash
    cases noSlash
  · intro rest ends
    rw [Files.Path.parts_join _ relative, ends, ← List.append_assoc] at split
    exact dot (List.singleton_inj.1 (List.append_inj' split rfl).2).symm

theorem check_partPath (noSlash : '/' ∉ d.request.name.toList)
    (noSlash' : '/' ∉ d.partName.toList)
    (checked : Tree.check d.request.destination = .ok ())
    (fits : d.request.destination.utf8ByteSize + 15 ≤ Tree.pathLimit) :
    Tree.check d.partPath = .ok () := by
  obtain ⟨base, joined⟩ := Files.Path.exists_base d.request.folder
  have here : d.request.destination = base ++ d.request.name :=
    joined _ (Files.Path.isAbsolute_of_not_mem noSlash)
  have there : d.partPath = base ++ d.partName :=
    joined _ (Files.Path.isAbsolute_of_not_mem noSlash')
  have longer := d.size_partName
  have size : d.partPath.utf8ByteSize = d.request.destination.utf8ByteSize + 15 := by
    rw [there, here, String.utf8ByteSize_append, String.utf8ByteSize_append, longer, Nat.add_assoc]
  obtain ⟨-, noZero, -⟩ := Tree.check_eq_ok_iff.1 checked
  rw [here, String.toList_append, List.mem_append] at noZero
  refine Tree.check_eq_ok_iff.2 ⟨?_, ?_, size ▸ fits⟩
  · intro empty
    rw [empty] at size
    exact absurd size.symm (Nat.succ_ne_zero _)
  · rw [there, String.toList_append, List.mem_append]
    exact fun zero => noZero (zero.imp_right (mem_partName (.inr rfl)))

theorem partName_ne (d : Download) {text : String} (brief : text.utf8ByteSize ≤ 2) :
    d.partName ≠ text := by
  have longer := d.size_partName
  rintro rfl
  omega

theorem name_ne_empty (plain : isPlain d.request.name = true) : d.request.name ≠ "" := by
  intro empty
  rw [empty] at plain
  cases plain

/-- With room for it, the part file can be made beside the destination. -/
theorem PartFits.leads {place : Location} (fits : d.PartFits t)
    (plain : isPlain d.request.name = true) (leads : t.Leads d.request.destination place) :
    ∃ part, t.Leads d.partPath part ∧ t.entry? part = none ∧ part ≠ place := by
  have noSlash := not_mem_name plain leads
  have noSlash' : '/' ∉ d.partName.toList := fun slash => noSlash (mem_partName (.inl rfl) slash)
  have longer := d.size_partName
  obtain ⟨folder, rfl, part⟩ := leads.beside noSlash (name_ne_empty plain) noSlash'
    (d.partName_ne (by decide)) (d.partName_ne (by decide)) (d.partName_ne (by decide))
    (longer ▸ fits.name) (check_partPath noSlash noSlash' leads.checked fits.path)
  refine ⟨_, part, ?_, ?_⟩
  · have fresh := fits.fresh
    rw [partPath_eq, part.lookup] at fresh
    cases found : t.entry? (folder ++ [d.partName]) with
    | none => rfl
    | some e =>
      rw [found] at fresh
      cases fresh
  · intro same
    have names := List.singleton_inj.1 (List.append_inj' same rfl).2
    rw [names] at longer
    omega

/-- Without room for its name, the part file cannot be made, even where the file could be. -/
theorem create_partPath_of_long {place : Location} (plain : isPlain d.request.name = true)
    (leads : t.Leads d.request.destination place)
    (fits : d.request.destination.utf8ByteSize + 15 ≤ Tree.pathLimit)
    (long : Tree.nameLimit < d.request.name.utf8ByteSize + 15) (e : Files.Entry) :
    t.create d.partPath e = .error .nameTooLong := by
  have noSlash := not_mem_name plain leads
  have noSlash' : '/' ∉ d.partName.toList := fun slash => noSlash (mem_partName (.inl rfl) slash)
  have some : d.partName ≠ "" := d.partName_ne (by decide)
  obtain ⟨folder, -, into⟩ := leads.above_beside noSlash (name_ne_empty plain) noSlash' some
    (check_partPath noSlash noSlash' leads.checked fits)
  exact Tree.create_of_long into (Tree.endsWithSlash_join _ noSlash' some)
    (d.size_partName ▸ long) e

end Download
end LocalSwarm
