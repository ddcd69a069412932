import ImageBuilder.Substitution

set_option autoImplicit false

/- The change of the host name in /etc/hostname and /etc/hosts. -/
namespace ImageBuilder.Hosts

open PlainText Substitution

/-- What a host name is made of. -/
def isHostChar (c : Char) : Bool := c.isAlphanum || c == '-' || c == '.'

/-- A host name as the system accepts it (and more: nothing is asked of its labels). -/
@[ext]
structure HostName where
  text : Text
  nonempty : text ≠ []
  plain : ∀ c ∈ text, isHostChar c = true

instance : DecidableEq HostName := fun _ _ => decidable_of_iff _ HostName.ext_iff.symm

/-- The two files, line by line. -/
structure Files where
  hostname : List Text
  hosts : List Text
  deriving DecidableEq

/-- `s/old/new/g` on one line. -/
def substitute (old new : HostName) (line : Text) : Text :=
  scan old.text.length (fun _ rest => dotted old.text rest) (fun _ _ => new.text) [] 0 line

/-- The two commands that all three scripts share. -/
def rename (CURRENT_HOSTNAME HOSTNAME : HostName) (files : Files) : Files where
  hostname := files.hostname.map (substitute CURRENT_HOSTNAME HOSTNAME)
  hosts := files.hosts.map (substitute CURRENT_HOSTNAME HOSTNAME)

/-- ifupdown.credentials -/
def ifupdown_credentials (CURRENT_HOSTNAME HOSTNAME : HostName) (files : Files) : Files :=
  if CURRENT_HOSTNAME = HOSTNAME then files else rename CURRENT_HOSTNAME HOSTNAME files

/-- networkmanager.credentials -/
def networkmanager_credentials (CURRENT_HOSTNAME HOSTNAME : HostName) (files : Files) : Files :=
  if CURRENT_HOSTNAME = HOSTNAME then files else rename CURRENT_HOSTNAME HOSTNAME files

/-- menu-config, which does not compare the names. -/
def change_hostname (CURRENT_HOSTNAME HOSTNAME : HostName) (files : Files) : Files :=
  rename CURRENT_HOSTNAME HOSTNAME files

/-- `sed "1 a 127.0.1.1 name"`, as stage2 enters the name. -/
def enter (name : HostName) : List Text → List Text
  | [] => []
  | first :: rest => first :: ("127.0.1.1\t" ++ name.text) :: rest

/-- The text before a name: an address, no comment, and a blank at the end. -/
def opensName (before : Text) : Bool :=
  before.any (fun c => !isBlank c) && !before.contains '#' && before.getLast?.any isBlank

/-- The text behind a name. -/
def endsName : Text → Bool
  | [] => true
  | c :: _ => isBlank c || c == '#'

/-- Here stands a whole name equal to this one. -/
def wholeName (name : HostName) (before rest : Text) : Bool :=
  opensName before && name.text.isPrefixOf rest && endsName (rest.drop name.text.length)

/-- A line of /etc/hosts with its whole names `old` changed into `new`. -/
def renameLine (old new : HostName) (line : Text) : Text :=
  scan old.text.length (wholeName old) (fun _ _ => new.text) [] 0 line

/-- Both files are as the new name asks for. -/
structure Renamed (old new : HostName) (before after : Files) : Prop where
  hostname : after.hostname = [new.text]
  hosts : after.hosts = before.hosts.map (renameLine old new)

/-- What sed replaces in a line are the whole names, or reads as the new name already. -/
def OnlyNames (old new : HostName) (line : Text) : Prop :=
  ∀ place ∈ hits old.text.length (fun _ rest => dotted old.text rest) [] 0 line,
    wholeName old place.1 place.2 = true ∨ place.2.take old.text.length = new.text

instance (old new : HostName) (line : Text) : Decidable (OnlyNames old new line) :=
  inferInstanceAs (Decidable (∀ _ ∈ _, _ ∨ _))

section Names

variable {old new : HostName}

theorem HostName.positive (name : HostName) : 0 < name.text.length :=
  List.length_pos_iff.mpr name.nonempty

theorem HostName.solid (name : HostName) : ∀ c ∈ name.text, isBlank c = false := by
  have other (c : Char) (odd : isHostChar c = false) : c ∉ name.text := fun member =>
    Bool.false_ne_true (odd.symm.trans (name.plain c member))
  exact solid_of_not_mem name.text (other ' ' (by decide)) (other '\t' (by decide))
    (other '\n' (by decide))

theorem HostName.countP_blank (name : HostName) : name.text.countP isBlank = 0 := by
  rw [List.countP_eq_zero]
  intro c member
  rw [name.solid c member]
  exact Bool.false_ne_true

theorem wholeName_iff (before rest : Text) : wholeName old before rest = true ↔
    opensName before = true ∧ ∃ behind, rest = old.text ++ behind ∧ endsName behind = true := by
  unfold wholeName
  rw [Bool.and_eq_true, Bool.and_eq_true, List.isPrefixOf_iff_prefix]
  constructor
  · rintro ⟨⟨opens, behind, rfl⟩, ends⟩
    rw [List.drop_left] at ends
    exact ⟨opens, behind, rfl, ends⟩
  · rintro ⟨opens, behind, rfl, ends⟩
    rw [List.drop_left]
    exact ⟨⟨opens, behind, rfl⟩, ends⟩

theorem dotted_of_wholeName (before rest : Text) (whole : wholeName old before rest = true) :
    dotted old.text rest = true := by
  obtain ⟨_, behind, rfl, _⟩ := (wholeName_iff before rest).mp whole
  exact dotted_append old.text behind

/-- No name starts inside text without a blank. -/
theorem not_wholeName_inside (before rest : Text) (width index : Nat) (inside : 0 < index)
    (below : index < width) (solid : (rest.take width).countP isBlank = 0)
    (long : (rest.take width).length = width) :
    wholeName old (before ++ rest.take index) (rest.drop index) = false := by
  rw [Bool.eq_false_iff]
  intro whole
  have opens := ((wholeName_iff _ _).mp whole).1
  unfold opensName at opens
  have ends : (before ++ rest.take index).getLast?.any isBlank = true :=
    (Bool.and_eq_true_iff.mp opens).2
  have nonempty : rest.take index ≠ [] := by
    rw [List.length_take] at long
    rw [← List.length_pos_iff, List.length_take]
    omega
  rw [List.getLast?_append_of_ne_nil before nonempty, Option.any_eq_true] at ends
  obtain ⟨c, last, blank⟩ := ends
  have member : c ∈ rest.take width := by
    have inner : c ∈ rest.take index := List.mem_of_getLast? last
    have nested : rest.take index = (rest.take width).take index := by
      rw [List.take_take, Nat.min_eq_left (Nat.le_of_lt below)]
    rw [nested] at inner
    exact List.mem_of_mem_take inner
  exact List.countP_eq_zero.mp solid c member blank

theorem take_of_wholeName (before rest : Text) (whole : wholeName old before rest = true) :
    rest.take old.text.length = old.text := by
  obtain ⟨_, behind, rfl, _⟩ := (wholeName_iff before rest).mp whole
  exact List.take_left

/-- Where sed takes no blank away, it is sed that finds all the whole names. -/
theorem renameLine_eq_scan (line : Text)
    (solid : ∀ place ∈ hits old.text.length (fun _ rest => dotted old.text rest) [] 0 line,
      (place.2.take old.text.length).countP isBlank = 0) :
    renameLine old new line = scan old.text.length (fun _ rest => dotted old.text rest)
      (fun before rest =>
        if wholeName old before rest then new.text else rest.take old.text.length) [] 0 line := by
  apply scan_refine old.positive [] line dotted_of_wholeName
  intro place member _ index inside below
  have found := hit_of_mem_hits old.positive [] line place member
  exact not_wholeName_inside place.1 place.2 _ index inside below (solid place member)
    (length_of_dotted old.text place.2 found)

theorem countP_renameLine (line : Text) :
    (renameLine old new line).countP isBlank = line.countP isBlank := by
  have total := countP_scan_absent (wholeName old) (fun _ _ => new.text) old.positive isBlank [] line
    fun _ _ => new.countP_blank
  rw [← total, renameLine, Nat.left_eq_add]
  rw [List.sum_eq_zero_iff_forall_eq_nat]
  intro count member
  obtain ⟨place, found, rfl⟩ := List.mem_map.mp member
  have whole := hit_of_mem_hits old.positive [] line place found
  rw [take_of_wholeName place.1 place.2 whole]
  exact old.countP_blank

/-- A result with all the blanks has lost none to a hit. -/
theorem solid_of_countP (line : Text)
    (same : (substitute old new line).countP isBlank = line.countP isBlank) :
    ∀ place ∈ hits old.text.length (fun _ rest => dotted old.text rest) [] 0 line,
      (place.2.take old.text.length).countP isBlank = 0 := by
  have total := countP_scan_absent (fun _ rest => dotted old.text rest) (fun _ _ => new.text)
    old.positive isBlank [] line fun _ _ => new.countP_blank
  rw [← same, substitute, Nat.add_eq_left] at total
  intro place member
  exact List.sum_eq_zero_iff_forall_eq_nat.mp total _ (List.mem_map.mpr ⟨place, member, rfl⟩)

/-- sed changes exactly the whole names if and only if it finds nothing else. -/
theorem substitute_eq_iff (line : Text) :
    substitute old new line = renameLine old new line ↔ OnlyNames old new line := by
  constructor
  · intro same
    have solid := solid_of_countP line (by rw [same, countP_renameLine])
    rw [renameLine_eq_scan line solid] at same
    intro place member
    have found := hit_of_mem_hits old.positive [] line place member
    have puts := put_eq_of_scan_eq old.positive new.text.length [] line (fun _ _ => rfl) ?_ same
      place member
    · cases whole : wholeName old place.1 place.2 with
      | true => exact Or.inl rfl
      | false =>
        rw [whole] at puts
        exact Or.inr puts
    · intro other among
      have wide := length_of_dotted old.text other.2 (hit_of_mem_hits old.positive [] line other among)
      split
      · exact Or.inl rfl
      · exact Or.inr wide
  · intro only
    have solid : ∀ place ∈ hits old.text.length (fun _ rest => dotted old.text rest) [] 0 line,
        (place.2.take old.text.length).countP isBlank = 0 := by
      intro place member
      rcases only place member with whole | reads
      · rw [take_of_wholeName _ _ whole]
        exact old.countP_blank
      · rw [reads]
        exact new.countP_blank
    rw [renameLine_eq_scan line solid]
    apply scan_congr old.positive
    intro place member
    show new.text = if wholeName old place.1 place.2 then new.text else _
    rcases only place member with whole | reads
    · rw [if_pos whole]
    · split
      · rfl
      · exact reads.symm

/-- The name itself becomes the new one, dots or not. -/
theorem substitute_self : substitute old new old.text = new.text := by
  have whole := dotted_append old.text []
  rw [List.append_nil] at whole
  exact scan_one old.positive [] old.text rfl whole

theorem renameLine_self (line : Text) : renameLine old old line = line := by
  unfold renameLine
  rw [scan_congr old.positive [] line ?_, scan_take old.positive]
  intro place member
  have whole := hit_of_mem_hits old.positive [] line place member
  exact (take_of_wholeName place.1 place.2 whole).symm

theorem renamed_rename_iff (hosts : List Text) :
    Renamed old new ⟨[old.text], hosts⟩ (rename old new ⟨[old.text], hosts⟩) ↔
      ∀ line ∈ hosts, OnlyNames old new line := by
  have each : hosts.map (substitute old new) = hosts.map (renameLine old new) ↔
      ∀ line ∈ hosts, OnlyNames old new line := by
    rw [List.map_inj_left]
    exact forall₂_congr fun line _ => substitute_eq_iff line
  constructor
  · intro renamed
    exact each.mp renamed.hosts
  · intro only
    refine ⟨?_, each.mpr only⟩
    show [substitute old new old.text] = [new.text]
    rw [substitute_self]

/-- A script that leaves equal names alone. -/
theorem renamed_guarded_iff (hosts : List Text) :
    Renamed old new ⟨[old.text], hosts⟩
        (if old = new then ⟨[old.text], hosts⟩ else rename old new ⟨[old.text], hosts⟩) ↔
      old = new ∨ ∀ line ∈ hosts, OnlyNames old new line := by
  by_cases same : old = new
  · rw [if_pos same]
    refine iff_of_true ⟨by rw [same], ?_⟩ (Or.inl same)
    rw [← same]
    have kept : hosts.map (renameLine old old) = hosts.map id :=
      List.map_congr_left fun line _ => renameLine_self line
    rw [kept, List.map_id]
  · rw [if_neg same, renamed_rename_iff]
    exact (or_iff_right same).symm

end Names

/-- The three scripts rename the host and nothing else exactly if this holds. -/
theorem renamed_iff (CURRENT_HOSTNAME HOSTNAME : HostName) (hosts : List Text) :
    let files : Files := ⟨[CURRENT_HOSTNAME.text], hosts⟩
    let only := ∀ line ∈ hosts, OnlyNames CURRENT_HOSTNAME HOSTNAME line
    (Renamed CURRENT_HOSTNAME HOSTNAME files (ifupdown_credentials CURRENT_HOSTNAME HOSTNAME files) ↔
      CURRENT_HOSTNAME = HOSTNAME ∨ only) ∧
    (Renamed CURRENT_HOSTNAME HOSTNAME files
        (networkmanager_credentials CURRENT_HOSTNAME HOSTNAME files) ↔
      CURRENT_HOSTNAME = HOSTNAME ∨ only) ∧
    (Renamed CURRENT_HOSTNAME HOSTNAME files (change_hostname CURRENT_HOSTNAME HOSTNAME files) ↔
      only) :=
  ⟨renamed_guarded_iff hosts, renamed_guarded_iff hosts, renamed_rename_iff hosts⟩

def debian : HostName := ⟨"debian", by decide, by decide⟩

def server : HostName := ⟨"server", by decide, by decide⟩

example : renameLine debian server "127.0.1.1\tdebian debian.lan # debian".toList =
    "127.0.1.1\tserver debian.lan # debian".toList := by decide +kernel

/-- An address of another host, below the name that stage2 has entered. -/
def entered : List Text :=
  enter debian ["127.0.0.1\tlocalhost".toList, "151.101.2.132\tdeb.debian.org".toList]

/-- The other host loses its name. -/
theorem other_host_renamed :
    "151.101.2.132\tdeb.server.org".toList ∈
        (ifupdown_credentials debian server ⟨[debian.text], entered⟩).hosts ∧
      ¬ Renamed debian server ⟨[debian.text], entered⟩
        (ifupdown_credentials debian server ⟨[debian.text], entered⟩) := by
  refine ⟨by decide +kernel, fun renamed => ?_⟩
  have hosts := renamed.hosts
  exact absurd hosts (by decide +kernel)

end ImageBuilder.Hosts
