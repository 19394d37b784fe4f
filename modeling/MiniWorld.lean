import MiniWorld.Ledger.Total
import MiniWorld.Ledger.Trades
import MiniWorld.Phi.Constants
import MiniWorld.Agents.Types
import MiniWorld.Agents.Soul
import MiniWorld.Engine.Simulation
import MiniWorld.Engine.Money
import MiniWorld.Engine.Treasury
import MiniWorld.Run.Invariant
import MiniWorld.Run.Keyed
import MiniWorld.Engine.Orders
import MiniWorld.Engine.Market
import MiniWorld.Engine.Cognition
import MiniWorld.Engine.Lifecycle
import MiniWorld.Persistence.Agents
import MiniWorld.Persistence.WorldMeta
import MiniWorld.Engine.Setup
import MiniWorld.Engine.Tick
import MiniWorld.Engine.Merchant
import MiniWorld.Api.Server
import MiniWorld.Engine.Deaths
import MiniWorld.Engine.Migration
import MiniWorld.Engine.Residents
import MiniWorld.Engine.Moves
import MiniWorld.Engine.Diaspora
import MiniWorld.Engine.Membership
import MiniWorld.Engine.Diplomacy
import MiniWorld.Engine.Governance
import MiniWorld.Api.RateLimit
import MiniWorld.Engine.Matching
import MiniWorld.Engine.Claims
import MiniWorld.Engine.Behavior
import MiniWorld.Engine.Stock
import MiniWorld.Engine.Crime
import MiniWorld.Engine.Goods
import MiniWorld.Sentinel.Checks
import MiniWorld.Sentinel.Alerts
import MiniWorld.Gardener.Guardrails
import MiniWorld.Llm.Dispatch
import MiniWorld.Engine.Route
import MiniWorld.Run.FirstMin
import MiniWorld.Engine.Neighbors
import MiniWorld.Engine.Compaction
import MiniWorld.Engine.Names
import MiniWorld.Run.Probe
import MiniWorld.Grid.Hexagon
import MiniWorld.World.Generation
import MiniWorld.World.Placement
import MiniWorld.Run.Largest
import MiniWorld.Agents.Memory
import MiniWorld.Persistence.Relationships
import MiniWorld.Engine.Relationships
import MiniWorld.Engine.Deployment
import MiniWorld.Engine.Warfare
import MiniWorld.Engine.Relations
import MiniWorld.Engine.Land
import MiniWorld.Engine.Factions
import MiniWorld.Engine.Founding
import MiniWorld.Engine.Economy
