import ImageBuilder.Hush

set_option autoImplicit false

/- The boot scripts of files/boot/scripts, command by command. -/
namespace ImageBuilder.Boot

open PlainText Hush

/-- `${devtype} ${devnum}:${distro_bootpart} path` -/
def onDevice (path : List Piece) : List (List Piece) :=
  [[v "devtype"], [v "devnum", ":", v "distro_bootpart"], path]

/-- `load ${devtype} ${devnum}:${distro_bootpart} ${address} path` -/
def loadLine (address : String) (path : List Piece) : List (List Piece) :=
  [["load"], [v "devtype"], [v "devnum", ":", v "distro_bootpart"], [v address], path]

section Generic

variable (world : World)

/-- The first partition of a card with one partition, else the second, holds
the root; boot.scr tells which. -/
def detectPrefix : Command :=
  ifThen (testE world (onDevice ["boot.scr"]))
    (sequence [setenv "prefix" [], partUuid world [[v "devtype"], [v "devnum", ":2"]] "uuid"])
    (ifThen (testE world (onDevice ["boot/boot.scr"]))
      (sequence [setenv "prefix" ["boot"],
        partUuid world [[v "devtype"], [v "devnum", ":1"]] "uuid"]))

/-- The environment file; `platform` is empty before bootcmdini fills it in. -/
def loadEnvironment (platform : Text) : Command :=
  sequence [setenv "platform" [.lit platform],
    setenv "user_env" [v "prefix", "/", v "platform", "Env.txt"],
    skip,
    load world (loadLine "scriptaddr" [v "user_env"]),
    envImport world [v "scriptaddr"] [v "filesize"]]

def bootVariables : Command :=
  sequence [setenv "rootdev" ["PARTUUID=", v "uuid"],
    setenv "fk_kvers" [v "prefix", "/", v "kernel"],
    setenv "initrd" [v "prefix", "/", v "initramfs"],
    setenv "fdtdir" [v "prefix", "/", v "platform"],
    setenv "user_overlay_dir" [v "prefix", "/user-overlays"],
    setenv "bootargs" [v "console", " rw root=", v "rootdev", " rootfstype=", v "rootfstype",
      " loglevel=", v "loglevel", " fsck.repair=yes ", v "extra", " rootwait init=/sbin/init"]]

def ramdiskLine : List (List Piece) := loadLine "ramdisk_addr_r" [v "initrd"]
def kernelLine : List (List Piece) := loadLine "kernel_addr_r" [v "fk_kvers"]
def fdtLine : List (List Piece) := loadLine "fdt_addr_r" [v "fdtdir", "/", v "fdtfile"]

/-- The path of one overlay below `directory`. -/
def overlayPath (directory : List Piece) : List Piece :=
  directory ++ [.lit ("/" : Text), v "dtoverlay", .lit (".dtbo" : Text)]

/-- One overlay of a loop; boot.ini and amlogic-t7-boot.cmd do not test whether
it exists first. -/
def applyOverlay (checked : Bool) (directory : List Piece) : Command :=
  let apply := sequence [skip,
    andThen (load world (loadLine "scriptaddr" (overlayPath directory))) skip]
  if checked then ifThen (testE world (onDevice (overlayPath directory))) apply else apply

def overlayLoop (checked : Bool) (list : String) (directory : List Piece) : Command :=
  ifThen (testN [[v list]])
    (forWords "dtoverlay" [[v list]] (applyOverlay world checked directory))

/-- fdt addr, fdt resize and the two loops over overlays. -/
def overlays (checked : Bool) : Command :=
  sequence [skip, skip,
    overlayLoop world checked "overlays" [v "fdtdir", "/overlays"],
    overlayLoop world checked "user_overlays" [v "user_overlay_dir"]]

/-- `command ${kernel_addr_r} ${ramdisk_addr_r}:${filesize} ${fdt_addr_r}` -/
def bootWith (command : String) : Command :=
  andThen skip (boot command [v "kernel_addr_r"] [v "ramdisk_addr_r", ":", v "filesize"]
    [v "fdt_addr_r"])

/-- The loads of boot.cmd, boot.ini and spacemit-boot.cmd, the ramdisk first. -/
def loadAll (checked : Bool) : Command :=
  sequence [load world ramdiskLine, load world kernelLine, skip, load world fdtLine,
    overlays world checked]

def bootBoth : Command := sequence [bootWith "booti", bootWith "bootm"]

/-- Everything before the first load of a boot file. -/
def genericPrepare (platform : Text) : Command :=
  sequence [detectPrefix world, loadEnvironment world platform, bootVariables]

def boot_cmd (platform : Text) : Command :=
  sequence [genericPrepare world platform, loadAll world true, bootBoth]

def boot_ini (platform : Text) : Command :=
  sequence [genericPrepare world platform, loadAll world false, bootBoth]

/-- The label and the device tree of one board of the k1 series. -/
def k1Board (label fdtfile : String) : Command :=
  ifThen (testE world (onDevice [v "prefix", "/", v "platform", "/", fdtfile]))
    (sequence [setenv "bootlabel" [label], setenv "fdtfile" [fdtfile]])

def productName : Command :=
  ifThen (testEq [v "product_name"] ["k1-x_deb1"])
    (k1Board world "BananaPi BPI-F3" "k1-bananapi-f3.dtb")
    (ifThen (testEq [v "product_name"] ["k1-x_milkv-jupiter"])
      (k1Board world "Milk-V Jupiter" "k1-milkv-jupiter.dtb")
      (ifThen (testEq [v "product_name"] ["k1-x_MUSE-Book"])
        (k1Board world "SpacemiT MUSE Book" "k1-musebook.dtb")
        (ifThen (testEq [v "product_name"] ["k1-x_MUSE-Pi-Pro"])
          (k1Board world "SpacemiT MusePi Pro" "k1-musepi-pro.dtb"))))

def spacemitPrepare (platform : Text) : Command :=
  sequence [detectPrefix world, loadEnvironment world platform, productName world, bootVariables]

def spacemit_boot_cmd (platform : Text) : Command :=
  sequence [spacemitPrepare world platform, loadAll world true, bootBoth]

end Generic

section AmlogicT7

variable (world : World)

def t7Uconfig : Command :=
  sequence [
    ifThen (testE world (onDevice ["uconfig.txt"])) (setenv "uconfig" ["uconfig.txt"])
      (ifThen (testE world (onDevice ["boot/uconfig.txt"]))
        (setenv "uconfig" ["boot/uconfig.txt"])),
    skip,
    load world (loadLine "scriptaddr" [v "uconfig"]),
    envImport world [v "scriptaddr"] [v "filesize"]]

def t7Paths : Command :=
  ifThen (testE world (onDevice ["boot.scr"]))
    (sequence [setenv "fk_kvers" [v "kernel"], setenv "initrd" [v "initramfs"],
      setenv "fdtdir" [v "platform"], setenv "user_overlay_dir" ["user-overlays"]])
    (ifThen (testE world (onDevice ["boot/boot.scr"]))
      (sequence [setenv "fk_kvers" ["boot/", v "kernel"],
        setenv "initrd" ["boot/", v "initramfs"], setenv "fdtdir" ["boot/", v "platform"],
        setenv "user_overlay_dir" ["boot/user-overlays"]]))

/-- `loading` and `rootfstype` are filled in by write2mmc. -/
def t7Prepare (rootfstype loading : Text) : Command :=
  sequence [setenv "rootfstype" [.lit rootfstype], setenv "kernel" [], setenv "initramfs" [],
    t7Uconfig world, t7Paths world,
    setenv "bootargs" [v "console", " root=", v "rootdev", " rw ", v "rootfstype", " ",
      v "verbose", " fsck.repair=yes ", v "extra", " rootwait partition_type=generic ",
      v "bootargs", " init=/sbin/init"],
    setenv "loading" [.lit loading]]

/-- `${loading} ${devtype} ${devnum}:${distro_bootpart} ${address} path` -/
def t7Line (address : String) (path : List Piece) : List (List Piece) :=
  [[v "loading"], [v "devtype"], [v "devnum", ":", v "distro_bootpart"], [v address], path]

def t7Ramdisk : List (List Piece) := t7Line "ramdisk_addr_r" [v "initrd"]
def t7Kernel : List (List Piece) := t7Line "kernel_addr_r" [v "fk_kvers"]
def t7Fdt : List (List Piece) := t7Line "fdt_addr_r" [v "fdtdir", "/", v "fdtfile"]

/-- The loads; the settings of the display are `fdt set` commands only. -/
def t7Load : Command :=
  sequence [andThen (load world t7Ramdisk) (andThen (load world t7Kernel)
      (andThen skip (load world t7Fdt))),
    skip, skip, skip,
    overlayLoop world false "overlays" [v "fdtdir", "/overlays"],
    overlayLoop world false "user_overlays" [v "user_overlay_dir"]]

def amlogic_t7_boot_cmd (rootfstype loading : Text) : Command :=
  sequence [t7Prepare world rootfstype loading, t7Load world, bootWith "booti"]

end AmlogicT7

section Odroid

variable (world : World)

def odroidUserOptions : Command :=
  sequence [setenv "bootlabel" [], setenv "uuid" [], setenv "rootfstype" [], setenv "verbose" [],
    setenv "usbquirks" [], setenv "extra" [], setenv "console" [], setenv "fk_kvers" [],
    setenv "initrd" [], setenv "kernel_addr_r" [], setenv "ramdisk_addr_r" [],
    setenv "fdtdir" [], setenv "fdtfile" [], setenv "fdt_addr_r" [],
    andThen (load world [["load"], ["mmc"], [v "devno", ":1"], [v "loadaddr"], ["config.ini"]])
      (ini world ["user_options"] [v "loadaddr"]),
    ifThen (testEq ["x", v "overlay_profile"] ["x"]) skip
      (ini world ["overlay_", v "overlay_profile"] [v "loadaddr"])]

def odroidPrepare : Command :=
  sequence [odroidUserOptions world,
    setenv "bootargs" [v "console", " ro root=", v "uuid", " net.ifnames=0 ", v "rootfstype",
      " fsck.repair=yes loglevel=", v "verbose", " ", v "extra", " ", v "usbquirks", " rootwait"],
    ifThen (testZ [v "distro_bootpart"]) (setenv "partition" [v "bootpart"])
      (setenv "partition" [v "distro_bootpart"])]

/-- `load ${devtype} ${devnum}:${partition} ${address} ${prefix}path` -/
def odroidLine (address : String) (path : List Piece) : List (List Piece) :=
  [["load"], [v "devtype"], [v "devnum", ":", v "partition"], [v address], v "prefix" :: path]

def odroidRamdisk : List (List Piece) := odroidLine "ramdisk_addr_r" [v "initrd"]

/-- Kernel, device tree, ramdisk, boot; each only after the one before. -/
def odroidAttempt : Command :=
  andThen (load world (odroidLine "kernel_addr_r" [v "fk_kvers"]))
    (andThen (load world (odroidLine "fdt_addr_r" [v "fdtdir", "/", v "fdtfile"]))
      (andThen (load world odroidRamdisk) (bootWith "booti")))

def odroid_boot_cmd : Command :=
  sequence [odroidPrepare world, odroidAttempt world, odroidAttempt world]

end Odroid

end ImageBuilder.Boot
