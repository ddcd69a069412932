import ImageBuilder.TransferGuard
import ImageBuilder.Shrink
import ImageBuilder.FlashAgreement
import ImageBuilder.RamdiskSize
import ImageBuilder.StagedBoot
import ImageBuilder.TransferBoot
import ImageBuilder.SourceDownload
import ImageBuilder.CustomizedConfig
import ImageBuilder.UbootPatching
import ImageBuilder.InitrdHook
import ImageBuilder.ModuleInsertion
import ImageBuilder.HostRename
import ImageBuilder.BranchHash
import ImageBuilder.IfupdownCredentials
import ImageBuilder.Userdata
import ImageBuilder.SpiUpdate
import ImageBuilder.ShrinkPreserves
import ImageBuilder.DeviceSplit
import ImageBuilder.KernelVersion
import ImageBuilder.ShrunkSize
import ImageBuilder.DeviceTreeList
import ImageBuilder.BoardMenu
import ImageBuilder.ConfigUpdate
import ImageBuilder.GrowpartRuns
import ImageBuilder.GrowpartRoot
import ImageBuilder.GrowpartRestore
import ImageBuilder.BuildMounts
import ImageBuilder.TransferMounts
import ImageBuilder.KernelPackage
import ImageBuilder.FirstBoot
import ImageBuilder.Splice
import ImageBuilder.AcsTool
import ImageBuilder.FlashRecovery
