import VpnControl.Billing.Balances
import VpnControl.Billing.Expiration
import VpnControl.Billing.Webhooks
import VpnControl.Billing.Delivered
import VpnControl.Billing.SupportRefunds
import VpnControl.Billing.AutoRenew
import VpnControl.Billing.Downgrades
import VpnControl.Billing.Credits
import VpnControl.Billing.RewardOnce
import VpnControl.Billing.Trials
import VpnControl.Vpn.AccessCut
import VpnControl.Vpn.TrafficTotals
import VpnControl.Vpn.TrafficCap
import VpnControl.Vpn.Prolonging
import VpnControl.Placements.Versions
import VpnControl.Agent.Identity
import VpnControl.Agent.SnapshotContents
import VpnControl.Agent.Outbox
import VpnControl.Agent.Results
import VpnControl.Reconcilers.TickLock
import VpnControl.Support.Broadcasts
import VpnControl.EntryRouting.LiveSpecs
import VpnControl.EntryRouting.Publisher
import VpnControl.Fleet.DrainedRoutes
import VpnControl.Billing.BotOffers
import VpnControl.Billing.Quotes
import VpnControl.Placements.Retries
import VpnControl.Profiles.ArtifactMapper
import VpnControl.Fleet.RouteHealth
import VpnControl.Routing.Selector
import VpnControl.Fleet.AutoCreate
import VpnControl.Fleet.Balancer
import VpnControl.Support.Recurring
import VpnControl.Support.Scenarios
import VpnControl.Billing.Histories
