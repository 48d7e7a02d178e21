import StacksetController.Types
import StacksetController.Labels
import StacksetController.Text
import StacksetController.SortSlice
import StacksetController.MarkExpiredStacks
import StacksetController.ExpiryOrder
import StacksetController.NewStack
import StacksetController.Resources
import StacksetController.Deployment
import StacksetController.Service
import StacksetController.Ingress
import StacksetController.Autoscaler
import StacksetController.Status
import StacksetController.Routing
import StacksetController.Lifecycle
