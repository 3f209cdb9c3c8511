import HwEfat.Lib.Lru
import HwEfat.Lib.Run
import HwEfat.Lib.Heap
import HwEfat.Lib.Isolation
import HwEfat.Lib.Loop
import HwEfat.Lib.Memory
import HwEfat.Aicpu.Basic
import HwEfat.Aicpu.KernelCache.Def
import HwEfat.Aicpu.KernelCache.Invariant
import HwEfat.Aicpu.KernelCache.Lru
import HwEfat.Aicpu.SessionCache
import HwEfat.Aicpu.ExtInfo.Def
import HwEfat.Aicpu.ExtInfo.Walk
import HwEfat.Aicpu.ExtInfo.Termination
import HwEfat.Aicpu.ExtInfo.Bounds
import HwEfat.Aicpu.ExtInfo.Agreement
import HwEfat.Aicpu.CpuKernel.Context
import HwEfat.Aicpu.CpuKernel.UpdateTensor
import HwEfat.Aicpu.CpuKernel.Register
import HwEfat.Aicpu.CpuKernel.Cache
import HwEfat.Aicpu.CpuKernel.Launch
import HwEfat.Aicpu.CpuKernel.Transparency
import HwEfat.Aicpu.CpuKernel.BlockOne
import HwEfat.Aicpu.CpuKernel.BlockRuns
import HwEfat.Aicpu.CpuKernel.Session
import HwEfat.Aicpu.CpuKernel.Threads
import HwEfat.Aicpu.CpuKernel.Async
import HwEfat.Lib.Extremum
import HwEfat.Lib.Python
import HwEfat.AutoSchedule.Segment.Def
import HwEfat.AutoSchedule.Segment.Rows
import HwEfat.AutoSchedule.Segment.Agreement
import HwEfat.Main.Report.Def
import HwEfat.Main.Report.Stages
import HwEfat.Main.AtcTransformOm
import HwEfat.Main.ResultCompare.Def
import HwEfat.Main.ResultCompare.Evidence
import HwEfat.AutoSchedule.DimConv.Def
import HwEfat.AutoSchedule.DimConv.Moves
import HwEfat.AutoSchedule.DimConv.Cubes
import HwEfat.AutoSchedule.DimConv.Four2Five
import HwEfat.AutoSchedule.DimConv.Five2Four
import HwEfat.Lib.Product
import HwEfat.Main.SubCaseDesign.Cross
import HwEfat.Main.SubCaseDesign.Profiles
import HwEfat.Main.SubCaseDesign.Combinations
import HwEfat.Main.SubCaseDesign.Loop
import HwEfat.Main.SubCaseDesign.Count
import HwEfat.Main.SubCaseDesign.Taken
import HwEfat.Main.SubCaseDesign.EachOnce
import HwEfat.Main.SubCaseDesign.Pairing
import HwEfat.Aicpu.CpuKernel.Descriptor
import HwEfat.Aicpu.CpuKernel.Addresses
import HwEfat.Aicpu.CpuKernel.WriteBack
import HwEfat.Aicpu.CpuKernel.ParamBlock
import HwEfat.Aicpu.ExtInfo.Records
import HwEfat.Lib.Keyed
import HwEfat.Aicpu.ExtInfo.Order
import HwEfat.AutoSchedule.InterfaceCheck.Def
import HwEfat.AutoSchedule.InterfaceCheck.Compare
import HwEfat.AutoSchedule.InterfaceCheck.Soundness
import HwEfat.Main.SubCaseDesign.Fuzz
import HwEfat.Main.CaseDesign.Def
import HwEfat.Main.CaseDesign.Validation
import HwEfat.Main.SubCaseDesign.Generates
import HwEfat.Main.SubCaseDesign.TypicalShape
import HwEfat.Main.SubCaseDesign.FuzzShape
import HwEfat.Lib.Infix
import HwEfat.Main.CaseDesign.Executable
import HwEfat.Main.SubCaseDesign.Words
import HwEfat.Main.SubCaseDesign.FirstWords
import HwEfat.Main.SubCaseDesign.Names
import HwEfat.Main.CaseDesign.UniqueNames
import HwEfat.Main.CaseDesign.Expect
import HwEfat.Aicpu.CpuKernel.DataSize
import HwEfat.Aicpu.CpuKernel.Status
import HwEfat.Aicpu.Notification
import HwEfat.Aicpu.AsyncCpuKernel
import HwEfat.Aicpu.Sharder
import HwEfat.AutoSchedule.IrBuilder.Def
import HwEfat.AutoSchedule.IrBuilder.Elements
import HwEfat.AutoSchedule.IrBuilder.Cast
import HwEfat.AutoSchedule.IrBuilder.Repeats
import HwEfat.AutoSchedule.DimConv.CubeSizes
import HwEfat.AutoSchedule.Segment.ListIds
import HwEfat.Main.Report.Calls
import HwEfat.Main.Report.Bookkeeping
import HwEfat.Main.Report.Counters
import HwEfat.Main.Report.Json
import HwEfat.Main.Report.RoundTrip
import HwEfat.Main.ResultCompare.EveryOutput
import HwEfat.AutoSchedule.Windowed
import HwEfat.AutoSchedule.TupleSum.Def
import HwEfat.AutoSchedule.TupleSum.Axes
import HwEfat.AutoSchedule.TupleSum.Agreement
import HwEfat.Lib.Extended
import HwEfat.Main.CompareData.Def
import HwEfat.Main.CompareData.Verdict
import HwEfat.Main.SubCaseDesign.FuzzFill
import HwEfat.Main.SubCaseDesign.FuzzMade
import HwEfat.Main.SubCaseDesign.FuzzCopy
import HwEfat.Main.SubCaseDesign.FuzzOwn
import HwEfat.Lib.Frame
import HwEfat.Main.DataGenerator.Def
import HwEfat.Main.DataGenerator.Paths
import HwEfat.Main.DataGenerator.Turn
import HwEfat.Main.DataGenerator.Share
import HwEfat.Main.DataGenerator.Independence
import HwEfat.Main.AclOpJson.Def
import HwEfat.Main.AclOpJson.Unchanged
import HwEfat.Lib.Slice
import HwEfat.Main.MsOpGenerator
import HwEfat.Main.RtsApi.Def
import HwEfat.Main.RtsApi.Codes
import HwEfat.Main.RtsApi.Contexts
import HwEfat.Main.RtsApi.Retry
import HwEfat.Lib.Split
import HwEfat.Main.RtsApi.LibraryPath
import HwEfat.Lib.Collect
import HwEfat.Lib.Ledger
import HwEfat.Main.TbeOp.Def
import HwEfat.Main.RtsApi.Buffers
import HwEfat.Main.TbeOp.Accounts
import HwEfat.Main.TbeOp.Steps
import HwEfat.Main.TbeOp.Balance
import HwEfat.Main.TbeOp.Calls
import HwEfat.Main.TbeOp.Inputs
import HwEfat.Main.TbeOp.Layout
import HwEfat.Main.CaseGenerator.IniFile
import HwEfat.Main.CaseGenerator.CheckOpInfo
import HwEfat.Lib.IntText
import HwEfat.Lib.Bracketed
import HwEfat.Main.CaseGenerator.AttrValue
import HwEfat.Lib.Objects
import HwEfat.Main.CaseGenerator.ModelCases
import HwEfat.Main.CaseGenerator.FromModel
import HwEfat.AutoSchedule.InterfaceCheck.Padding
import HwEfat.AutoSchedule.InterfaceCheck.Returns
import HwEfat.AutoSchedule.DimConv.Protogenes
import HwEfat.Main.CompareData.ErrorReport
import HwEfat.Main.RtsApi.Storages
import HwEfat.Scripts.ParseChangedFiles
import HwEfat.Main.SubCaseDesign.OriFields
import HwEfat.AutoSchedule.InterfaceCheck.Attachment
import HwEfat.AutoSchedule.InterfaceCheck.Interface
import HwEfat.AutoSchedule.InterfaceCheck.SpecLines
import HwEfat.Aicpu.DeviceCpuKernel.Def
import HwEfat.Aicpu.DeviceCpuKernel.Runs
import HwEfat.Aicpu.DeviceCpuKernel.Cached
import HwEfat.Lib.Comments
import HwEfat.Main.CaseGenerator.HeadFile
import HwEfat.Main.CaseGenerator.Declarations
import HwEfat.Main.CaseGenerator.Prototype
import HwEfat.Main.CaseGenerator.AicpuBaseCase
import HwEfat.Aicpu.CpuKernel.Registry
import HwEfat.Main.CaseDesign.CreatedCase
import HwEfat.AutoSchedule.AutoCast.Def
import HwEfat.AutoSchedule.AutoCast.Elewise
import HwEfat.AutoSchedule.AutoCast.Reduce
import HwEfat.AutoSchedule.Mad
import HwEfat.AutoSchedule.OneOrZero
import HwEfat.AutoSchedule.InterfaceCheck.CheckAll
