import ImageBuilder.StreamEditor
import ImageBuilder.QuotedText

set_option autoImplicit false

/- The network settings that ifupdown.credentials writes into the files that
ifupdown_setup and router_ifupdown have left. -/
namespace ImageBuilder.Ifupdown

open PlainText StreamEditor

/-- An SSID or a pass key: printable, and no double quote. -/
structure Secret where
  text : Text
  printable : ∀ c ∈ text, ' ' ≤ c ∧ c ≠ '\x7f' ∧ c ≠ '"'

def isAddressChar (c : Char) : Bool := c.isDigit || c == '.'

/-- An address, or a netmask as an address or a length. -/
structure Address where
  text : Text
  usual : ∀ c ∈ text, isAddressChar c = true

/-- Addresses with blanks between them. -/
structure Addresses where
  text : Text
  usual : ∀ c ∈ text, isAddressChar c = true ∨ c = ' '

/-- The two letters of a country. -/
structure Country where
  text : Text
  letters : ∀ c ∈ text, c.isUpper = true
  length : text.length = 2

/-- /boot/credentials.txt, as far as the two functions read it. -/
structure Credentials where
  SSID : Secret
  PASSKEY : Secret
  COUNTRYCODE : Country
  IPADDR : Address
  NETMASK : Address
  GATEWAY : Address
  NAMESERVERS : Addresses

/-- The files, line by line. -/
structure Files where
  interfaces : List Text
  wpa_supplicant : List Text
  crda : Option (List Text)
  cfg80211 : List Text

/-- The interfaces file in front of wlan0, before router_ifupdown. -/
def wired : List Text :=
  ["# Interfaces",
    "source /etc/network/interfaces.d/*",
    "",
    "# Loopback network interface",
    "auto lo",
    "iface lo inet loopback",
    "",
    "# Ethernet",
    "allow-hotplug eth0",
    "iface eth0 inet dhcp",
    "\t#address 10.0.0.10",
    "\t#netmask 255.255.255.0",
    "\t#gateway 10.0.0.1",
    "\t#dns-nameservers 8.8.8.8 8.8.4.4",
    "\t",
    "#allow-hotplug eth1",
    "#iface eth1 inet dhcp",
    "\t#address 10.0.0.10",
    "\t#netmask 255.255.255.0",
    "\t#gateway 10.0.0.1",
    "\t#dns-nameservers 8.8.8.8 8.8.4.4",
    "",
    "#allow-hotplug eth2",
    "#iface eth2 inet dhcp",
    "\t#address 10.0.0.10",
    "\t#netmask 255.255.255.0",
    "\t#gateway 10.0.0.1",
    "\t#dns-nameservers 8.8.8.8 8.8.4.4",
    "",
    "# Mobile tether",
    "#allow-hotplug usb0",
    "#iface usb0 inet dhcp",
    "",
    "# Wireless",
    "allow-hotplug wlan0"]

/-- The stanza of wlan0 as it is installed. -/
def wlan0_dhcp : List Text :=
  ["iface wlan0 inet dhcp",
    "\twireless-power off",
    "\t#address 10.0.0.10",
    "\t#netmask 255.255.255.0",
    "\t#gateway 10.0.0.1",
    "\t#dns-nameservers 8.8.8.8 8.8.4.4",
    "\twpa-conf /etc/wpa_supplicant/wpa_supplicant.conf"]

/-- The stanza for a static address. -/
def wlan0_static (given : Credentials) : List Text :=
  ["iface wlan0 inet static",
    "\twireless-power off",
    "\taddress " ++ given.IPADDR.text,
    "\tnetmask " ++ given.NETMASK.text,
    "\tgateway " ++ given.GATEWAY.text,
    "\tdns-nameservers " ++ given.NAMESERVERS.text,
    "\twpa-conf /etc/wpa_supplicant/wpa_supplicant.conf"]

/-- wpa_supplicant.conf but for three lines. -/
def wpa_lines (country ssid psk : Text) : List Text :=
  ["ctrl_interface=DIR=/var/run/wpa_supplicant GROUP=netdev",
    "update_config=1",
    country,
    "",
    "network=\x7b",
    ssid,
    "\tscan_ssid=1",
    "\tkey_mgmt=WPA-PSK",
    psk,
    "\x7d"]

/-- wpa_supplicant.conf with these settings. -/
def wpa_supplicant (country ssid psk : Text) : List Text :=
  wpa_lines ("country=" ++ country) ('\t' :: QuotedText.assignment "ssid" ssid)
    ('\t' :: QuotedText.assignment "psk" psk)

/-- ifupdown_setup -/
def ifupdown_setup (files : Files) : Files :=
  { files with
    interfaces := wired ++ wlan0_dhcp
    wpa_supplicant := wpa_supplicant "US" "mywifissid" "wifipasskey" }

/-- `sed -i s/#line/line/g`, for a line about an interface. -/
def uncomment (line : Text) (interfaces : List Text) : List Text :=
  interfaces.map (replaceAll ('#' :: line) line)

def routers : List Text :=
  ["bananapif3", "bananapim2s", "orangepir1", "nanopir1", "nanopir3s", "nanopir3slts", "dfa"]

def router_ifupdown (BOARD : Text) (files : Files) : Files :=
  let second :=
    if BOARD ∈ routers then
      uncomment "iface eth1 inet dhcp" (uncomment "allow-hotplug eth1" files.interfaces)
    else files.interfaces
  let third :=
    if BOARD = ("nanopir5s" : Text) then
      uncomment "iface eth2 inet dhcp" (uncomment "allow-hotplug eth2"
        (uncomment "iface eth1 inet dhcp" (uncomment "allow-hotplug eth1" second)))
    else second
  { files with interfaces := third }

section Script

variable (sed : Replacer)

/-- dhcp, up to the restart of wlan0. -/
def dhcp (given : Credentials) (files : Files) : Files :=
  { files with
    crda := files.crda.map
      (sed.substitute "REGDOMAIN=" ("REGDOMAIN=" ++ given.COUNTRYCODE.text))
    wpa_supplicant :=
      sed.substitute (QuotedText.assignment "psk" "wifipasskey")
          (QuotedText.assignment "psk" given.PASSKEY.text)
        (sed.substitute (QuotedText.assignment "ssid" "mywifissid")
            (QuotedText.assignment "ssid" given.SSID.text)
          (sed.substitute "country=US" ("country=" ++ given.COUNTRYCODE.text)
            files.wpa_supplicant))
    cfg80211 := ["options cfg80211 ieee80211_regdom=" ++ given.COUNTRYCODE.text] }

/-- static: the lines of wlan0 by their numbers, and then as dhcp. -/
def static (given : Credentials) (files : Files) : Files :=
  dhcp sed given
    { files with
      interfaces :=
        sed.setLine 41 ("\tdns-nameservers " ++ given.NAMESERVERS.text)
          (sed.setLine 40 ("\tgateway " ++ given.GATEWAY.text)
            (sed.setLine 39 ("\tnetmask " ++ given.NETMASK.text)
              (sed.setLine 38 ("\taddress " ++ given.IPADDR.text)
                (sed.setLine 36 "iface wlan0 inet static" files.interfaces)))) }

/-- `[[ "$MANUAL" =~ ^(true|yes)$ ]]` -/
def requested (MANUAL : Text) : Bool := MANUAL ∈ (["true", "yes"] : List Text)

/-- The check of the credentials, for an enabled service. -/
def credentials (MANUAL : Text) (given : Credentials) (files : Files) : Files :=
  if requested MANUAL then static sed given files else dhcp sed given files

end Script

/-- The files hold the settings given, and nothing else of them has changed. -/
structure Configured (MANUAL : Text) (given : Credentials) (before after : Files) : Prop where
  wpa : after.wpa_supplicant =
    wpa_supplicant given.COUNTRYCODE.text given.SSID.text given.PASSKEY.text
  stanza : ∃ others, before.interfaces = others ++ wlan0_dhcp ∧
    after.interfaces = others ++ if requested MANUAL then wlan0_static given else wlan0_dhcp

/-- What sed takes literally. -/
def Literal (secret : Secret) : Prop := ∀ c ∈ secret.text, c ∉ ['/', '&', '\\']

instance (secret : Secret) : Decidable (Literal secret) :=
  inferInstanceAs (Decidable (∀ c ∈ secret.text, c ∉ ['/', '&', '\\']))

section Interfaces

/-- The stanza of wlan0 has no line of the other interfaces. -/
theorem uncomment_append (line : Text) (others : List Text)
    (absent : ∀ each ∈ wlan0_dhcp, ¬ '#' :: line <:+: each) :
    uncomment line (others ++ wlan0_dhcp) =
      others.map (replaceAll ('#' :: line) line) ++ wlan0_dhcp := by
  have kept : wlan0_dhcp.map (replaceAll ('#' :: line) line) = wlan0_dhcp.map id :=
    List.map_congr_left fun each member => replaceAll_of_absent _ _ each (absent each member)
  rw [uncomment, List.map_append, kept, List.map_id]

/-- Every board has the stanza from line 36 on. -/
theorem router_interfaces (BOARD : Text) (files : Files) :
    ∃ others, others.length = 35 ∧
      (router_ifupdown BOARD (ifupdown_setup files)).interfaces = others ++ wlan0_dhcp := by
  have hotplug1 : ∀ each ∈ wlan0_dhcp, ¬ '#' :: "allow-hotplug eth1".toList <:+: each := by
    decide +kernel
  have iface1 : ∀ each ∈ wlan0_dhcp, ¬ '#' :: "iface eth1 inet dhcp".toList <:+: each := by
    decide +kernel
  have hotplug2 : ∀ each ∈ wlan0_dhcp, ¬ '#' :: "allow-hotplug eth2".toList <:+: each := by
    decide +kernel
  have iface2 : ∀ each ∈ wlan0_dhcp, ¬ '#' :: "iface eth2 inet dhcp".toList <:+: each := by
    decide +kernel
  have second (others : List Text) :
      ∃ next, next.length = others.length ∧ uncomment "iface eth1 inet dhcp"
        (uncomment "allow-hotplug eth1" (others ++ wlan0_dhcp)) = next ++ wlan0_dhcp := by
    rw [uncomment_append _ _ hotplug1, uncomment_append _ _ iface1]
    exact ⟨_, by rw [List.length_map, List.length_map], rfl⟩
  have third (others : List Text) :
      ∃ next, next.length = others.length ∧ uncomment "iface eth2 inet dhcp"
        (uncomment "allow-hotplug eth2" (others ++ wlan0_dhcp)) = next ++ wlan0_dhcp := by
    rw [uncomment_append _ _ hotplug2, uncomment_append _ _ iface2]
    exact ⟨_, by rw [List.length_map, List.length_map], rfl⟩
  have router : ∃ others, others.length = 35 ∧
      (if BOARD ∈ routers then uncomment "iface eth1 inet dhcp"
          (uncomment "allow-hotplug eth1" (wired ++ wlan0_dhcp))
        else wired ++ wlan0_dhcp) = others ++ wlan0_dhcp := by
    split
    · obtain ⟨next, long, is⟩ := second wired
      exact ⟨next, long, is⟩
    · exact ⟨wired, rfl, rfl⟩
  obtain ⟨others, long, is⟩ := router
  unfold router_ifupdown ifupdown_setup
  dsimp only
  rw [is]
  split
  · obtain ⟨next, long', is'⟩ := second others
    obtain ⟨last, long'', is''⟩ := third next
    rw [is', is'']
    exact ⟨last, by rw [long'', long', long], rfl⟩
  · exact ⟨others, long, rfl⟩

theorem setLine_append (sed : Replacer) (others stanza : List Text) (index : Nat)
    (replacement : Text) (plain : Plain replacement) :
    sed.setLine (others.length + index + 1) replacement (others ++ stanza) =
      others ++ stanza.set index replacement := by
  rw [Replacer.setLine, if_pos plain, Nat.add_sub_cancel,
    List.set_append_right _ _ (Nat.le_add_right _ _), Nat.add_sub_cancel_left]

theorem plain_address {c : Char} (usual : isAddressChar c = true) : isPlain c = true := by
  cases special : isPlain c with
  | true => rfl
  | false =>
    have some : c = '/' ∨ c = '\\' ∨ c = '&' ∨ c = '\n' := by
      by_contra none
      simp only [not_or] at none
      obtain ⟨slash, escape, ampersand, newline⟩ := none
      rw [isPlain, bne_iff_ne.mpr slash, bne_iff_ne.mpr escape, bne_iff_ne.mpr ampersand,
        bne_iff_ne.mpr newline] at special
      cases special
    rcases some with rfl | rfl | rfl | rfl
    · exact absurd usual (by decide)
    · exact absurd usual (by decide)
    · exact absurd usual (by decide)
    · exact absurd usual (by decide)

theorem Plain.append {first second : Text} (one : Plain first) (two : Plain second) :
    Plain (first ++ second) := by
  intro c member
  rcases List.mem_append.mp member with left | right
  · exact one c left
  · exact two c right

theorem Address.plain (address : Address) : Plain address.text :=
  fun c member => plain_address (address.usual c member)

theorem Addresses.plain (addresses : Addresses) : Plain addresses.text := by
  intro c member
  rcases addresses.usual c member with usual | blank
  · exact plain_address usual
  · rw [blank]
    rfl

/-- static writes the stanza, wherever the other lines come from. -/
theorem static_interfaces (sed : Replacer) (given : Credentials) (files : Files)
    (others : List Text) (long : others.length = 35)
    (installed : files.interfaces = others ++ wlan0_dhcp) :
    (static sed given files).interfaces = others ++ wlan0_static given := by
  have at36 := setLine_append sed others
  rw [long] at at36
  show sed.setLine 41 _ (sed.setLine 40 _ (sed.setLine 39 _ (sed.setLine 38 _
    (sed.setLine 36 _ files.interfaces)))) = _
  rw [installed, at36 _ 0 _ (by decide), at36 _ 2 _ (Plain.append (by decide) given.IPADDR.plain),
    at36 _ 3 _ (Plain.append (by decide) given.NETMASK.plain),
    at36 _ 4 _ (Plain.append (by decide) given.GATEWAY.plain),
    at36 _ 5 _ (Plain.append (by decide) given.NAMESERVERS.plain)]
  rfl

end Interfaces

section Wireless

/-- The lines that no setting is in. -/
def wpa_fixed : List Text :=
  ["ctrl_interface=DIR=/var/run/wpa_supplicant GROUP=netdev", "update_config=1", "", "network=\x7b",
    "\tscan_ssid=1", "\tkey_mgmt=WPA-PSK", "\x7d"]

theorem map_wpa_lines (edit : Text → Text) (kept : ∀ line ∈ wpa_fixed, edit line = line)
    (country ssid psk : Text) :
    (wpa_lines country ssid psk).map edit = wpa_lines (edit country) (edit ssid) (edit psk) := by
  simp only [wpa_fixed, List.forall_mem_cons] at kept
  obtain ⟨control, update, blank, network, scan, management, ends, _⟩ := kept
  simp only [wpa_lines, List.map_cons, List.map_nil, control, update, blank, network, scan,
    management, ends]

theorem wpa_lines_inj {country ssid psk country' ssid' psk' : Text}
    (same : wpa_lines country ssid psk = wpa_lines country' ssid' psk') :
    ssid = ssid' ∧ psk = psk' := by
  simp only [wpa_lines, List.cons.injEq] at same
  obtain ⟨_, _, _, _, _, ssids, _, _, psks, _⟩ := same
  exact ⟨ssids, psks⟩

theorem Secret.unquoted (secret : Secret) : '"' ∉ secret.text :=
  fun member => (secret.printable _ member).2.2 rfl

theorem Secret.single (secret : Secret) (key : Text) (named : '\n' ∉ key) :
    '\n' ∉ QuotedText.assignment key secret.text := by
  intro member
  simp only [QuotedText.assignment, List.mem_append, List.mem_cons, List.not_mem_nil, or_false]
    at member
  rcases member with front | equals | quote | inside | quote
  · exact named front
  · exact absurd equals (by decide)
  · exact absurd quote (by decide)
  · exact absurd (secret.printable _ inside).1 (by decide)
  · exact absurd quote (by decide)

theorem plain_assignment_iff (secret : Secret) (key : Text) (plain : Plain key) :
    Plain (QuotedText.assignment key secret.text) ↔ Literal secret := by
  constructor
  · intro all c member special
    have inside : c ∈ QuotedText.assignment key secret.text := by
      simp only [QuotedText.assignment, List.mem_append, List.mem_cons]
      exact Or.inr (Or.inr (Or.inr (Or.inl member)))
    have passes := all c inside
    simp only [List.mem_cons, List.not_mem_nil, or_false] at special
    rcases special with rfl | rfl | rfl
    · exact absurd passes (by decide)
    · exact absurd passes (by decide)
    · exact absurd passes (by decide)
  · intro literal c member
    simp only [QuotedText.assignment, List.mem_append, List.mem_cons, List.not_mem_nil, or_false]
      at member
    rcases member with front | rfl | rfl | inside | rfl
    · exact plain c front
    · rfl
    · rfl
    · have ordinary := literal c inside
      have newline : c ≠ '\n' := by
        rintro rfl
        exact absurd (secret.printable _ inside).1 (by decide)
      simp only [List.mem_cons, List.not_mem_nil, or_false, not_or] at ordinary
      simp only [isPlain, Bool.and_eq_true, bne_iff_ne]
      exact ⟨⟨⟨ordinary.1, ordinary.2.2⟩, ordinary.2.1⟩, newline⟩
    · rfl

/-- The editor on the line of the pattern and its tab. -/
theorem replaceAll_tab (pattern replacement : Text) (nonempty : pattern ≠ [])
    (other : pattern.head? ≠ some '\t') :
    replaceAll pattern replacement ('\t' :: pattern) = '\t' :: replacement := by
  have absent : ¬ pattern <:+: [] := fun inside => nonempty (List.infix_nil.mp inside)
  have whole := replaceAll_head pattern replacement [] nonempty absent
  rw [List.append_nil, List.append_nil] at whole
  rw [replaceAll_cons, whole]
  obtain ⟨c, rest, rfl⟩ := List.exists_cons_of_ne_nil nonempty
  rintro ⟨_, same⟩
  apply other
  rw [List.head?_cons, (List.cons.inj same).1]

theorem not_infix_of_not_mem {c : Char} {pattern line : Text} (inside : c ∈ pattern)
    (absent : c ∉ line) : ¬ pattern <:+: line :=
  fun occurs => absent (occurs.subset inside)

theorem country_unquoted (country : Country) : '"' ∉ "country=".toList ++ country.text := by
  intro member
  rcases List.mem_append.mp member with key | letter
  · exact absurd key (by decide)
  · exact absurd (country.letters _ letter) (by decide)

/-- The country comes first. -/
theorem substitute_country (sed : Replacer) (country : Country) :
    sed.substitute "country=US" ("country=" ++ country.text)
        (wpa_supplicant "US" "mywifissid" "wifipasskey") =
      wpa_supplicant country.text "mywifissid" "wifipasskey" := by
  have plain : Plain ("country=" ++ country.text) := by
    intro c member
    rcases List.mem_append.mp member with key | letter
    · exact (by decide : ∀ c ∈ "country=".toList, isPlain c = true) c key
    · have upper := country.letters c letter
      cases special : isPlain c with
      | true => rfl
      | false =>
        exfalso
        simp only [isPlain, Bool.and_eq_false_iff, bne_eq_false_iff_eq] at special
        rcases special with ((rfl | rfl) | rfl) | rfl
        · exact absurd upper (by decide)
        · exact absurd upper (by decide)
        · exact absurd upper (by decide)
        · exact absurd upper (by decide)
  have absent : ∀ line ∈ wpa_fixed, ¬ "country=US".toList <:+: line := by decide +kernel
  have head := replaceAll_head "country=US" ("country=" ++ country.text) [] (by decide)
    (by decide)
  rw [List.append_nil, List.append_nil] at head
  rw [sed.substitute_plain _ _ _ plain, wpa_supplicant, map_wpa_lines _ fun line member =>
    replaceAll_of_absent _ _ line (absent line member)]
  rw [replaceAll_of_absent _ _ ('\t' :: QuotedText.assignment "ssid" "mywifissid")
      (by decide +kernel),
    replaceAll_of_absent _ _ ('\t' :: QuotedText.assignment "psk" "wifipasskey")
      (by decide +kernel)]
  show wpa_lines (replaceAll "country=US" ("country=" ++ country.text) "country=US") _ _ = _
  rw [head]
  rfl

/-- What the substitutions of the two names put into their lines. -/
theorem substitute_names (sed : Replacer) (given : Credentials)
    (ssid : ¬ Odd (QuotedText.assignment "ssid" given.SSID.text))
    (psk : ¬ Odd (QuotedText.assignment "psk" given.PASSKEY.text)) (country : Country) :
    ∃ first second,
      (first = QuotedText.assignment "ssid" given.SSID.text ↔ Literal given.SSID) ∧
      (second = QuotedText.assignment "psk" given.PASSKEY.text ↔ Literal given.PASSKEY) ∧
      sed.substitute (QuotedText.assignment "psk" "wifipasskey")
          (QuotedText.assignment "psk" given.PASSKEY.text)
        (sed.substitute (QuotedText.assignment "ssid" "mywifissid")
          (QuotedText.assignment "ssid" given.SSID.text)
          (wpa_supplicant country.text "mywifissid" "wifipasskey")) =
      wpa_lines ("country=" ++ country.text)
        (replaceAll (QuotedText.assignment "psk" "wifipasskey") second ('\t' :: first))
        ('\t' :: second) := by
  obtain ⟨first, isFirst, one⟩ := sed.substitute_eq_map (QuotedText.assignment "ssid" "mywifissid")
    _ ssid (given.SSID.single "ssid" (by decide)) (by decide) (by decide)
  obtain ⟨second, isSecond, two⟩ := sed.substitute_eq_map
    (QuotedText.assignment "psk" "wifipasskey") _ psk (given.PASSKEY.single "psk" (by decide))
    (by decide) (by decide)
  rw [plain_assignment_iff given.SSID "ssid" (by decide)] at isFirst
  rw [plain_assignment_iff given.PASSKEY "psk" (by decide)] at isSecond
  refine ⟨first, second, isFirst, isSecond, ?_⟩
  have apart : ∀ line ∈ wpa_fixed,
      ¬ QuotedText.assignment "ssid" "mywifissid" <:+: line := by decide +kernel
  have apart' : ∀ line ∈ wpa_fixed,
      ¬ QuotedText.assignment "psk" "wifipasskey" <:+: line := by decide +kernel
  have other : ¬ QuotedText.assignment "ssid" "mywifissid" <:+: "country=".toList ++ country.text :=
    not_infix_of_not_mem (by decide) (country_unquoted country)
  have other' : ¬ QuotedText.assignment "psk" "wifipasskey" <:+: "country=".toList ++ country.text :=
    not_infix_of_not_mem (by decide) (country_unquoted country)
  rw [one, two, wpa_supplicant,
    map_wpa_lines _ fun line member => replaceAll_of_absent _ _ line (apart line member),
    map_wpa_lines _ fun line member => replaceAll_of_absent _ _ line (apart' line member),
    replaceAll_of_absent _ _ _ other, replaceAll_of_absent _ _ _ other',
    replaceAll_tab _ first (by decide) (by decide),
    replaceAll_of_absent _ _ ('\t' :: QuotedText.assignment "psk" "wifipasskey") (by decide +kernel),
    replaceAll_tab _ second (by decide) (by decide)]

/-- No pass key is assigned inside the line of the SSID. -/
theorem psk_absent (SSID PASSKEY : Secret) :
    ¬ QuotedText.assignment "psk" PASSKEY.text <:+:
      '\t' :: QuotedText.assignment "ssid" SSID.text := by
  rintro ⟨front, back, whole⟩
  have cut : (front ++ "psk=".toList) ++ '"' :: (PASSKEY.text ++ '"' :: back) =
      "\tssid=".toList ++ '"' :: (SSID.text ++ ['"']) := by
    have shape : front ++ ("psk=".toList ++ '"' :: (PASSKEY.text ++ ['"'])) ++ back =
        '\t' :: ("ssid=".toList ++ '"' :: (SSID.text ++ ['"'])) := whole
    simpa using shape
  -- the line has two quotes, so none stands in front of the key
  have quotes := congrArg (List.count '"') cut
  have ssid : SSID.text.count '"' = 0 := List.count_eq_zero.mpr SSID.unquoted
  have key : "psk=".toList.count '"' = 0 := by decide
  have name : "\tssid=".toList.count '"' = 0 := by decide
  rw [List.count_append, List.count_append, List.count_cons_self, List.count_append,
    List.count_cons_self, List.count_append, List.count_cons_self, List.count_append,
    List.count_singleton_self, ssid, key, name] at quotes
  have first : '"' ∉ front ++ "psk=".toList := by
    rw [← List.count_eq_zero, List.count_append]
    omega
  have keys := (QuotedText.cut_first first (by decide) cut).1
  have ends : "psk=".toList <:+ "\tssid=".toList := ⟨front, keys⟩
  exact absurd ends (by decide)

theorem dhcp_wpa_iff (sed : Replacer) (given : Credentials) (files : Files)
    (ssid : ¬ Odd (QuotedText.assignment "ssid" given.SSID.text))
    (psk : ¬ Odd (QuotedText.assignment "psk" given.PASSKEY.text))
    (installed : files.wpa_supplicant = wpa_supplicant "US" "mywifissid" "wifipasskey") :
    (dhcp sed given files).wpa_supplicant =
        wpa_supplicant given.COUNTRYCODE.text given.SSID.text given.PASSKEY.text ↔
      Literal given.SSID ∧ Literal given.PASSKEY := by
  obtain ⟨first, second, isFirst, isSecond, written⟩ :=
    substitute_names sed given ssid psk given.COUNTRYCODE
  have result : (dhcp sed given files).wpa_supplicant =
      wpa_lines ("country=" ++ given.COUNTRYCODE.text)
        (replaceAll (QuotedText.assignment "psk" "wifipasskey") second ('\t' :: first))
        ('\t' :: second) := by
    rw [← written, ← substitute_country sed given.COUNTRYCODE, ← installed]
    rfl
  rw [result, ← isFirst, ← isSecond]
  constructor
  · intro same
    obtain ⟨ssids, psks⟩ := wpa_lines_inj same
    have own := (List.cons.inj psks).2
    refine ⟨?_, own⟩
    by_cases inside : QuotedText.assignment "psk" "wifipasskey" <:+: '\t' :: first
    · have comes := infix_replaceAll _ second _ (by decide) inside
      rw [ssids, own] at comes
      exact absurd comes (psk_absent given.SSID given.PASSKEY)
    · rw [replaceAll_of_absent _ _ _ inside] at ssids
      exact (List.cons.inj ssids).2
  · rintro ⟨rfl, rfl⟩
    have absent : ¬ QuotedText.assignment "psk" "wifipasskey" <:+:
        '\t' :: QuotedText.assignment "ssid" given.SSID.text :=
      psk_absent given.SSID ⟨"wifipasskey", by decide⟩
    rw [replaceAll_of_absent _ _ _ absent]
    rfl

end Wireless

/-- On every board the settings are written for names that sed takes literally, and only
for them, but for names of which sed makes another program. -/
theorem configured_iff (sed : Replacer) (BOARD MANUAL : Text) (given : Credentials)
    (files : Files) :
    let installed := router_ifupdown BOARD (ifupdown_setup files)
    let written := credentials sed MANUAL given installed
    (Literal given.SSID → Literal given.PASSKEY → Configured MANUAL given installed written) ∧
    (¬ Odd (QuotedText.assignment "ssid" given.SSID.text) →
      ¬ Odd (QuotedText.assignment "psk" given.PASSKEY.text) →
      Configured MANUAL given installed written → Literal given.SSID ∧ Literal given.PASSKEY) := by
  intro installed written
  obtain ⟨others, long, stanza⟩ := router_interfaces BOARD files
  have wireless : installed.wpa_supplicant = wpa_supplicant "US" "mywifissid" "wifipasskey" := rfl
  have wpa : written.wpa_supplicant = (dhcp sed given installed).wpa_supplicant := by
    show (if requested MANUAL then static sed given installed
      else dhcp sed given installed).wpa_supplicant = _
    split
    · rfl
    · rfl
  have interfaces : written.interfaces =
      others ++ if requested MANUAL then wlan0_static given else wlan0_dhcp := by
    show (if requested MANUAL then static sed given installed
      else dhcp sed given installed).interfaces = _
    split
    · exact static_interfaces sed given installed others long stanza
    · exact stanza
  constructor
  · intro ssid psk
    have plain := (plain_assignment_iff given.SSID "ssid" (by decide)).mpr ssid
    have plain' := (plain_assignment_iff given.PASSKEY "psk" (by decide)).mpr psk
    refine ⟨?_, others, stanza, interfaces⟩
    rw [wpa]
    exact (dhcp_wpa_iff sed given installed plain.not_odd plain'.not_odd wireless).mpr ⟨ssid, psk⟩
  · intro ssid psk configured
    have same := configured.wpa
    rw [wpa] at same
    exact (dhcp_wpa_iff sed given installed ssid psk wireless).mp same

/-- A network with an ampersand in its name. -/
def cafe : Credentials where
  SSID := ⟨"Tom&Anna", by decide⟩
  PASSKEY := ⟨"correct horse", by decide⟩
  COUNTRYCODE := ⟨"DE", by decide, by decide⟩
  IPADDR := ⟨"192.168.1.20", by decide⟩
  NETMASK := ⟨"255.255.255.0", by decide⟩
  GATEWAY := ⟨"192.168.1.1", by decide⟩
  NAMESERVERS := ⟨"8.8.8.8 8.8.4.4", by decide⟩

/-- Its line takes the placeholder in twice. -/
theorem ampersand_expanded :
    ("\tssid=\"Tomssid=\"mywifissid\"Anna\"").toList ∈
        (credentials droppingReplacer "false" cafe
          (router_ifupdown "rock5b" (ifupdown_setup ⟨[], [], none, []⟩))).wpa_supplicant ∧
      ¬ Configured "false" cafe (router_ifupdown "rock5b" (ifupdown_setup ⟨[], [], none, []⟩))
        (credentials droppingReplacer "false" cafe
          (router_ifupdown "rock5b" (ifupdown_setup ⟨[], [], none, []⟩))) := by
  refine ⟨by decide +kernel, fun configured => ?_⟩
  have same := configured.wpa
  exact absurd same (by decide +kernel)

end ImageBuilder.Ifupdown
