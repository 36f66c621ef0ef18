import OTServ.Talk.Membership
import OTServ.Trade.Ownership
import OTServ.Housing.Privacy
import OTServ.Movement.CacheRuns
import OTServ.Movement.EquipmentRuns
import OTServ.Items.Conservation
import OTServ.Monsters.TargetListRuns
import OTServ.Housing.BedRuns
import OTServ.Monsters.WalkCacheRuns
import OTServ.Mail.Sending
import OTServ.View.MoveUpdates
import OTServ.Parties.Consistency
import OTServ.Housing.RentRuns
import OTServ.NodeFiles.RoundTrip
import OTServ.Conditions.RoundTrip
import OTServ.View.MapDecoding
import OTServ.Map.QuadTreeRuns
import OTServ.View.ContainerWindow
import OTServ.Login.WaitingList
import OTServ.Monsters.SpawnRuns
import OTServ.Protocol.Outgoing
import OTServ.Scheduling.Liveness
import OTServ.MapStore.BackEnds
import OTServ.Conditions.LifecycleRuns
import OTServ.Scheduling.DispatcherRuns
import OTServ.WorldEvents.RaidRuns
import OTServ.WorldEvents.GlobalEventRuns
import OTServ.Scripts.EnvironmentRuns
import OTServ.Network.StreamRuns
import OTServ.Monsters.SummonRuns
import OTServ.Login.PairingRuns
import OTServ.Scheduling.CreatureChecks
import OTServ.Talk.RuleViolations
import OTServ.Tiles.StackRuns
import OTServ.Tiles.FlagRuns
import OTServ.MapStore.PlayerItems
import OTServ.Map.PathSearch
import OTServ.Conditions.DamageLists
import OTServ.Players.MagicLevels
import OTServ.Players.DeathLoss
import OTServ.Scheduling.Decay
import OTServ.Map.TileLaw
import OTServ.Map.CheapestPath
import OTServ.Map.PathTo
import OTServ.Map.SightLine
import OTServ.Players.KillExperience
import OTServ.Game.AutoID
import OTServ.Login.LoginAttempts
import OTServ.NodeFiles.PropStreams
import OTServ.Players.Vitals
import OTServ.Database.InsertRows
import OTServ.Database.QuotedTexts
import OTServ.Protocol.Encryption
import OTServ.Login.KeyPairs
import OTServ.View.Audience
