import ChatCommands.Binding
import ChatCommands.Check
import ChatCommands.Command.Declaration
import ChatCommands.Command.Registry
import ChatCommands.Convert.Shape
import ChatCommands.Decimal.Fixed
import ChatCommands.Decimal.Reading
import ChatCommands.Directory.Memory
import ChatCommands.Dispatch.Agent
import ChatCommands.Dispatch.Service
import ChatCommands.Event.Context
import ChatCommands.Failure.Command
import ChatCommands.Failure.Registration
import ChatCommands.Limit.Cooldown
import ChatCommands.Limit.Lobby
import ChatCommands.Line.Cursor
import ChatCommands.Line.Quote
import ChatCommands.Main
import ChatCommands.Parameter.FlagScan
import ChatCommands.Proofs.AfterHooks
import ChatCommands.Proofs.AgentTurns
import ChatCommands.Proofs.BalancedCounters
import ChatCommands.Proofs.BodyCalls
import ChatCommands.Proofs.ByteOffsets
import ChatCommands.Proofs.CollectedReplies
import ChatCommands.Proofs.ConfiguredQuotes
import ChatCommands.Proofs.ConflictFreeTrees
import ChatCommands.Proofs.ConsoleCommands
import ChatCommands.Proofs.ConsoleEvents
import ChatCommands.Proofs.ConsoleRuns
import ChatCommands.Proofs.CooldownVerdicts
import ChatCommands.Proofs.CooldownWindows
import ChatCommands.Proofs.CountedRuns
import ChatCommands.Proofs.CountedSteps
import ChatCommands.Proofs.CourseEffects
import ChatCommands.Proofs.CourseLegs
import ChatCommands.Proofs.CourseOrder
import ChatCommands.Proofs.CursorRuns
import ChatCommands.Proofs.DeliveredArguments
import ChatCommands.Proofs.FailureKinds
import ChatCommands.Proofs.FairSlots
import ChatCommands.Proofs.FlagCuts
import ChatCommands.Proofs.FlagPlaces
import ChatCommands.Proofs.ForgottenWindows
import ChatCommands.Proofs.GatedChecks
import ChatCommands.Proofs.GatheredFlags
import ChatCommands.Proofs.GivableFlags
import ChatCommands.Proofs.GrantedPermissions
import ChatCommands.Proofs.GreedyLists
import ChatCommands.Proofs.HardFailures
import ChatCommands.Proofs.HousedModules
import ChatCommands.Proofs.Interleavings
import ChatCommands.Proofs.InvisibleEviction
import ChatCommands.Proofs.InvocationCourse
import ChatCommands.Proofs.JoinedLines
import ChatCommands.Proofs.LazyTokens
import ChatCommands.Proofs.LeftHooks
import ChatCommands.Proofs.LegalCourses
import ChatCommands.Proofs.LegalMarks
import ChatCommands.Proofs.Lifetimes
import ChatCommands.Proofs.ListBinder
import ChatCommands.Proofs.LongestDescent
import ChatCommands.Proofs.MemoryDirectories
import ChatCommands.Proofs.ModuleFrame
import ChatCommands.Proofs.ModuleLifecycle
import ChatCommands.Proofs.NameTiers
import ChatCommands.Proofs.NamedSiblings
import ChatCommands.Proofs.NestedGroups
import ChatCommands.Proofs.NumberedObjects
import ChatCommands.Proofs.OutlivingBuckets
import ChatCommands.Proofs.OwnedRoots
import ChatCommands.Proofs.PassedGates
import ChatCommands.Proofs.PrintedObjects
import ChatCommands.Proofs.QualifiedNames
import ChatCommands.Proofs.QuoteRoundTrip
import ChatCommands.Proofs.RecalledTags
import ChatCommands.Proofs.RecasedLines
import ChatCommands.Proofs.RegistryGrowth
import ChatCommands.Proofs.RoutedFailures
import ChatCommands.Proofs.ScopedObjects
import ChatCommands.Proofs.ScriptFrame
import ChatCommands.Proofs.ShapedValues
import ChatCommands.Proofs.SlotDeals
import ChatCommands.Proofs.SlotDiaries
import ChatCommands.Proofs.SlotHolders
import ChatCommands.Proofs.SlotTraffic
import ChatCommands.Proofs.StagedRegistration
import ChatCommands.Proofs.StatedWaits
import ChatCommands.Proofs.StrippedLeads
import ChatCommands.Proofs.SummedNumbers
import ChatCommands.Proofs.TokenGrammar
import ChatCommands.Proofs.TokenStreams
import ChatCommands.Proofs.TypedArguments
import ChatCommands.Proofs.TypedBeginnings
import ChatCommands.Proofs.UnbegunEvents
import ChatCommands.Proofs.UnboundSlots
import ChatCommands.Proofs.UsedUpRules
import ChatCommands.Proofs.WrittenFlags
import ChatCommands.Record.Metrics
import ChatCommands.Reply.Post
import ChatCommands.Text.Blank
import ChatCommands.Text.Case
import ChatCommands.Text.Quoted
import ChatCommands.Text.WordChar
import ChatCommands.Text.Words
import ChatCommands.Value.Args
