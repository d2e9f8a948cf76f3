import Signatures.Proofs.Report.FileInput

/-!
# Files by their paths

A path whose names are plain leads down a tree name by name, and it ends at the entry with just
these names. So a file is read by its path from the root and by its path from the current directory,
and nothing else is read by them.
-/

namespace Signatures

open Text
set_option autoImplicit false

/-- A name of an entry in a directory. -/
structure IsPlainName (name : String) : Prop where
  ne_empty : name ≠ ""
  ne_dot : name ≠ "."
  ne_dots : name ≠ ".."
  slash_not_mem : '/' ∉ name.toList
  short : name.utf8ByteSize ≤ 255

namespace Tree

variable {t : Tree} {place next last names : List String} {name path : String} {bytes : ByteArray}

/-- Every entry has a name, and no other entry stands below a file. -/
structure Consistent (t : Tree) : Prop where
  named : ∀ x ∈ t.entries, x.1 ≠ []
  leaf : ∀ x ∈ t.entries, ∀ y ∈ t.entries, ∀ bytes, x.2 = .file bytes → x.1 <+: y.1 → x.1 = y.1

theorem mem_of_lookup_eq_some {entry : Entry} (h : t.entries.lookup place = some entry) :
    (place, entry) ∈ t.entries := by
  obtain ⟨before, after, hentries, -⟩ := List.lookup_eq_some_iff.mp h
  rw [hentries]
  exact List.mem_append_right before List.mem_cons_self

theorem isSome_find?_iff :
    (t.find? place).isSome ↔ place = [] ∨ ∃ x ∈ t.entries, place <+: x.1 := by
  rw [find?]
  cases h : t.entries.lookup place with
  | some entry =>
    have hmem := mem_of_lookup_eq_some h
    simpa using Or.inr ⟨place, ⟨entry, hmem⟩, List.prefix_rfl⟩
  | none => simp

theorem isSome_find?_of_append (h : (t.find? (place ++ names)).isSome) :
    (t.find? place).isSome := by
  rw [isSome_find?_iff] at h ⊢
  rcases h with h | ⟨x, hx, hbelow⟩
  · exact Or.inl (List.append_eq_nil_iff.mp h).1
  · exact Or.inr ⟨x, hx, (List.prefix_append place names).trans hbelow⟩

/-- Whatever leads to an entry is a directory. -/
theorem find?_eq_directory (ht : t.Consistent) (h : (t.find? (place ++ [name])).isSome) :
    t.find? place = some .directory := by
  rcases isSome_find?_iff.mp h with hnil | ⟨y, hy, hbelow⟩
  · simp at hnil
  · have hplace : place <+: y.1 := (List.prefix_append place [name]).trans hbelow
    have hsome := isSome_find?_of_append h
    rw [find?] at hsome ⊢
    cases hentry : t.entries.lookup place with
    | none =>
      rw [hentry] at hsome
      dsimp only at hsome ⊢
      split at hsome
      · rename_i hleads
        rw [if_pos hleads]
      · simp at hsome
    | some entry =>
      cases entry with
      | directory => rfl
      | file bytes =>
        have hself : place = y.1 := ht.leaf _ (mem_of_lookup_eq_some hentry) y hy bytes rfl hplace
        have hlength := hbelow.length_le
        rw [← hself, List.length_append, List.length_singleton] at hlength
        omega

theorem follow_eq_ok_iff (ht : t.Consistent) (hname : IsPlainName name) :
    t.follow place name = .ok next ↔
      (t.find? (place ++ [name])).isSome ∧ next = place ++ [name] := by
  have hstays : ¬ (name = "" ∨ name = ".") := by simp [hname.ne_empty, hname.ne_dot]
  have hshort : ¬ 255 < name.utf8ByteSize := Nat.not_lt.mpr hname.short
  constructor
  · intro h
    unfold follow at h
    split at h
    · simp at h
    · simp at h
    · rw [if_neg hstays, if_neg hname.ne_dots, if_neg hshort] at h
      dsimp only at h
      split at h
      · rename_i hsome
        exact ⟨hsome, (Except.ok.inj h).symm⟩
      · simp at h
  · rintro ⟨hsome, rfl⟩
    unfold follow
    rw [find?_eq_directory ht hsome]
    dsimp only
    rw [if_neg hstays, if_neg hname.ne_dots, if_neg hshort, if_pos hsome]

theorem foldlM_follow_eq_ok_iff (ht : t.Consistent) (hnames : ∀ n ∈ names, IsPlainName n)
    (hplace : (t.find? place).isSome) :
    names.foldlM t.follow place = .ok last ↔
      (t.find? (place ++ names)).isSome ∧ last = place ++ names := by
  induction names generalizing place with
  | nil => simp [hplace, pure, Except.pure, eq_comm]
  | cons name names ih =>
    obtain ⟨hname, hrest⟩ := List.forall_mem_cons.mp hnames
    have hbind : (name :: names).foldlM t.follow place = .ok last ↔
        ∃ next, t.follow place name = .ok next ∧ names.foldlM t.follow next = .ok last := by
      rw [List.foldlM_cons]
      cases t.follow place name <;> simp [bind, Except.bind]
    have hsplit : place ++ name :: names = place ++ [name] ++ names := by simp
    rw [hbind, hsplit]
    constructor
    · rintro ⟨next, hnext, hlast⟩
      obtain ⟨hsome, rfl⟩ := (follow_eq_ok_iff ht hname).mp hnext
      exact (ih hrest hsome).mp hlast
    · rintro ⟨hsome, rfl⟩
      have hnext := isSome_find?_of_append hsome
      exact ⟨_, (follow_eq_ok_iff ht hname).mpr ⟨hnext, rfl⟩, (ih hrest hnext).mpr ⟨hsome, rfl⟩⟩

theorem find?_nil (ht : t.Consistent) : t.find? [] = some .directory := by
  rw [find?]
  cases hentry : t.entries.lookup [] with
  | none => simp
  | some entry => exact absurd rfl (ht.named _ (mem_of_lookup_eq_some hentry))

theorem namesOf_intercalate (hne : names ≠ []) (hnames : ∀ n ∈ names, '/' ∉ n.toList) :
    namesOf ("/".intercalate names) = names := by
  have hpieces : (['/'].intercalate (names.map String.toList)).splitOn '/' =
      names.map String.toList := by
    apply List.splitOn_intercalate
    · simpa using hnames
    · simpa using hne
  have hslash : "/".toList = ['/'] := rfl
  rw [namesOf, String.toList_intercalate, hslash, hpieces]
  simp [Function.comp_def]

theorem startsWith_intercalate (hne : names ≠ []) (hnames : ∀ n ∈ names, IsPlainName n) :
    ("/".intercalate names).startsWith '/' = false := by
  obtain ⟨name, rest, rfl⟩ := List.exists_cons_of_ne_nil hne
  obtain ⟨hname, -⟩ := List.forall_mem_cons.mp hnames
  have hnil : name.toList ≠ [] := by simpa using hname.ne_empty
  obtain ⟨c, cs, hc⟩ := List.exists_cons_of_ne_nil hnil
  have hslash : c ≠ '/' := by
    have hmem := hname.slash_not_mem
    rw [hc, List.mem_cons, not_or] at hmem
    exact Ne.symm hmem.1
  have hhead : ("/".intercalate (name :: rest)).toList.head? = some c := by
    cases rest <;> simp [String.toList_intercalate, hc]
  rw [String.startsWith_char_eq_head?, hhead]
  simpa using hslash

/-- The file is read to which the names of a path lead. -/
theorem read_eq_ok_iff (hlength : path.utf8ByteSize < 4096)
    (hpath : ∀ last, (namesOf path).foldlM t.follow
      (if path.startsWith '/' then [] else t.current) = .ok last ↔
        (t.find? place).isSome ∧ last = place) :
    t.read path = .ok bytes ↔ t.find? place = some (.file bytes) := by
  have hread : t.read path = .ok bytes ↔ ∃ last, (namesOf path).foldlM t.follow
      (if path.startsWith '/' then [] else t.current) = .ok last ∧
        t.find? last = some (.file bytes) := by
    unfold read
    rw [if_neg (Nat.not_le.mpr hlength)]
    generalize (namesOf path).foldlM t.follow _ = followed
    cases followed with
    | error failure => simp [bind, Except.bind]
    | ok last =>
      simp only [bind, Except.bind, pure, Except.pure]
      cases hentry : t.find? last with
      | none => simp [hentry]
      | some entry => cases entry <;> simp [hentry]
  rw [hread]
  constructor
  · rintro ⟨last, hlast, hfile⟩
    obtain ⟨-, rfl⟩ := (hpath last).mp hlast
    exact hfile
  · intro hfile
    exact ⟨place, (hpath place).mpr ⟨by rw [hfile]; rfl, rfl⟩, hfile⟩

section Plain

variable (ht : t.Consistent) (hne : names ≠ []) (hnames : ∀ n ∈ names, IsPlainName n)
include ht hne hnames

theorem read_relative_eq_ok_iff (hcurrent : (t.find? t.current).isSome)
    (hlength : ("/".intercalate names).utf8ByteSize < 4096) :
    t.read ("/".intercalate names) = .ok bytes ↔
      t.find? (t.current ++ names) = some (.file bytes) := by
  apply read_eq_ok_iff hlength
  intro last
  rw [namesOf_intercalate hne fun n hn => (hnames n hn).slash_not_mem,
    startsWith_intercalate hne hnames]
  exact foldlM_follow_eq_ok_iff ht hnames hcurrent

theorem read_absolute_eq_ok_iff
    (hlength : ("/" ++ "/".intercalate names).utf8ByteSize < 4096) :
    t.read ("/" ++ "/".intercalate names) = .ok bytes ↔ t.find? names = some (.file bytes) := by
  have hpath : "/" ++ "/".intercalate names = "/".intercalate ("" :: names) := by
    obtain ⟨name, rest, rfl⟩ := List.exists_cons_of_ne_nil hne
    simp
  have hstart : ("/" ++ "/".intercalate names).startsWith '/' = true := by
    rw [String.startsWith_char_eq_head?]
    simp
  have hslash : ∀ n ∈ "" :: names, '/' ∉ n.toList :=
    List.forall_mem_cons.mpr ⟨by simp, fun n hn => (hnames n hn).slash_not_mem⟩
  have hroot : t.follow [] "" = .ok [] := by
    rw [follow, find?_nil ht]
    simp
  apply read_eq_ok_iff hlength
  intro last
  rw [hstart, hpath, namesOf_intercalate (by simp) hslash, List.foldlM_cons, if_pos rfl, hroot]
  exact foldlM_follow_eq_ok_iff ht hnames (by rw [find?_nil ht]; rfl)

/-- The lines of a text file in the tree are read like words. -/
theorem parseWithFile_of_find? (hcurrent : (t.find? t.current).isSome) {lined : LinedText}
    (hfile : t.find? (t.current ++ names) = some (.file lined.content.toUTF8))
    (hlength : ("/".intercalate names).utf8ByteSize < 4096) (filter : Log.Filter)
    (words : List String) :
    parseWithFile t.read filter words (some ("/".intercalate names)) =
      parseWithFile t.read filter (words ++ lined.signatures) none := by
  apply parseWithFile_of_ok
  apply Files.signatures_content
  exact (read_relative_eq_ok_iff ht hne hnames hcurrent hlength).mpr hfile

end Plain

example : (⟨[(["d", "f"], .file "g".toUTF8)], ["d"]⟩ : Tree).read "../d//./f" = .ok "g".toUTF8 := by
  rfl

end Tree

end Signatures
