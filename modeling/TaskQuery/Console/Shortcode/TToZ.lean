/-!
# Shortcodes from `t` to `z`

Names of emojis and the emojis they stand for.
-/

namespace TaskQuery.Console

def shortcodesTToZ : List (String × String) := [
  ("t-rex", "🦖"), ("t-shirt", "👕"), ("table_tennis_paddle_and_ball", "🏓"), ("taco", "🌮"),
  ("tada", "🎉"), ("taiwan", "🇹🇼"), ("tajikistan", "🇹🇯"), ("takeout_box", "🥡"),
  ("tanabata_tree", "🎋"), ("tangerine", "🍊"), ("tanzania", "🇹🇿"), ("taurus", "♉"), ("taxi", "🚕"),
  ("tea", "🍵"), ("teacup_without_handle", "🍵"), ("tear-off_calendar", "📆"), ("teddy_bear", "🧸"),
  ("telephone", "☎"), ("telephone_receiver", "📞"), ("telescope", "🔭"), ("television", "📺"),
  ("ten", "🔟"), ("ten-thirty", "🕥"), ("ten_o’clock", "🕙"), ("tennis", "🎾"), ("tent", "⛺"),
  ("test_tube", "🧪"), ("thailand", "🇹🇭"), ("thermometer", "🌡"), ("thinking_face", "🤔"),
  ("thought_balloon", "💭"), ("thread", "🧵"), ("three", "3️⃣"), ("three-thirty", "🕞"),
  ("three_button_mouse", "🖱"), ("three_o’clock", "🕒"), ("thumbs_down", "👎"),
  ("thumbs_down_dark_skin_tone", "👎🏿"), ("thumbs_down_light_skin_tone", "👎🏻"),
  ("thumbs_down_medium-dark_skin_tone", "👎🏾"), ("thumbs_down_medium-light_skin_tone", "👎🏼"),
  ("thumbs_down_medium_skin_tone", "👎🏽"), ("thumbs_up", "👍"), ("thumbs_up_dark_skin_tone", "👍🏿"),
  ("thumbs_up_light_skin_tone", "👍🏻"), ("thumbs_up_medium-dark_skin_tone", "👍🏾"),
  ("thumbs_up_medium-light_skin_tone", "👍🏼"), ("thumbs_up_medium_skin_tone", "👍🏽"),
  ("thumbsdown", "👎"), ("thumbsup", "👍"), ("thunder_cloud_and_rain", "⛈"), ("ticket", "🎫"),
  ("tiger", "🐯"), ("tiger2", "🐅"), ("tiger_face", "🐯"), ("timer_clock", "⏲"),
  ("timor-leste", "🇹🇱"), ("tired_face", "😫"), ("tm", "™"), ("togo", "🇹🇬"), ("toilet", "🚽"),
  ("tokelau", "🇹🇰"), ("tokyo_tower", "🗼"), ("tomato", "🍅"), ("tonga", "🇹🇴"), ("tongue", "👅"),
  ("toolbox", "🧰"), ("tooth", "🦷"), ("top", "🔝"), ("top_arrow", "🔝"), ("top_hat", "🎩"),
  ("tophat", "🎩"), ("tornado", "🌪"), ("trackball", "🖲"), ("tractor", "🚜"), ("trade_mark", "™"),
  ("traffic_light", "🚥"), ("train", "🚋"), ("train2", "🚆"), ("tram", "🚊"), ("tram_car", "🚋"),
  ("triangular_flag", "🚩"), ("triangular_flag_on_post", "🚩"), ("triangular_ruler", "📐"),
  ("trident", "🔱"), ("trident_emblem", "🔱"), ("trinidad_&_tobago", "🇹🇹"),
  ("tristan_da_cunha", "🇹🇦"), ("triumph", "😤"), ("trolleybus", "🚎"), ("trophy", "🏆"),
  ("tropical_drink", "🍹"), ("tropical_fish", "🐠"), ("truck", "🚚"), ("trumpet", "🎺"),
  ("tshirt", "👕"), ("tulip", "🌷"), ("tumbler_glass", "🥃"), ("tunisia", "🇹🇳"), ("turkey", "🦃"),
  ("turkmenistan", "🇹🇲"), ("turks_&_caicos_islands", "🇹🇨"), ("turtle", "🐢"), ("tuvalu", "🇹🇻"),
  ("tv", "📺"), ("twelve-thirty", "🕧"), ("twelve_o’clock", "🕛"),
  ("twisted_rightwards_arrows", "🔀"), ("two", "2️⃣"), ("two-hump_camel", "🐫"),
  ("two-thirty", "🕝"), ("two_hearts", "💕"), ("two_men_holding_hands", "👬"), ("two_o’clock", "🕑"),
  ("two_women_holding_hands", "👭"), ("u.s._outlying_islands", "🇺🇲"),
  ("u.s._virgin_islands", "🇻🇮"), ("u5272", "🈹"), ("u5408", "🈴"), ("u55b6", "🈺"), ("u6307", "🈯"),
  ("u6708", "🈷"), ("u6709", "🈶"), ("u6e80", "🈵"), ("u7121", "🈚"), ("u7533", "🈸"), ("u7981", "🈲"),
  ("u7a7a", "🈳"), ("uganda", "🇺🇬"), ("ukraine", "🇺🇦"), ("umbrella", "☂"),
  ("umbrella_on_ground", "⛱"), ("umbrella_with_rain_drops", "☔"), ("unamused", "😒"),
  ("unamused_face", "😒"), ("underage", "🔞"), ("unicorn_face", "🦄"),
  ("united_arab_emirates", "🇦🇪"), ("united_kingdom", "🇬🇧"), ("united_nations", "🇺🇳"),
  ("united_states", "🇺🇸"), ("unlock", "🔓"), ("unlocked", "🔓"), ("up", "🆙"), ("up!_button", "🆙"),
  ("up-down_arrow", "↕"), ("up-left_arrow", "↖"), ("up-right_arrow", "↗"), ("up_arrow", "⬆"),
  ("upside-down_face", "🙃"), ("upside__down_face", "🙃"), ("upwards_button", "🔼"),
  ("uruguay", "🇺🇾"), ("uzbekistan", "🇺🇿"), ("v", "✌"), ("vampire", "🧛"),
  ("vampire_dark_skin_tone", "🧛🏿"), ("vampire_light_skin_tone", "🧛🏻"),
  ("vampire_medium-dark_skin_tone", "🧛🏾"), ("vampire_medium-light_skin_tone", "🧛🏼"),
  ("vampire_medium_skin_tone", "🧛🏽"), ("vanuatu", "🇻🇺"), ("vatican_city", "🇻🇦"),
  ("venezuela", "🇻🇪"), ("vertical_traffic_light", "🚦"), ("vhs", "📼"), ("vibration_mode", "📳"),
  ("victory_hand", "✌"), ("victory_hand_dark_skin_tone", "✌🏿"),
  ("victory_hand_light_skin_tone", "✌🏻"), ("victory_hand_medium-dark_skin_tone", "✌🏾"),
  ("victory_hand_medium-light_skin_tone", "✌🏼"), ("victory_hand_medium_skin_tone", "✌🏽"),
  ("video_camera", "📹"), ("video_game", "🎮"), ("videocassette", "📼"), ("vietnam", "🇻🇳"),
  ("violin", "🎻"), ("virgo", "♍"), ("volcano", "🌋"), ("volleyball", "🏐"), ("vs", "🆚"),
  ("vs_button", "🆚"), ("vulcan_salute", "🖖"), ("vulcan_salute_dark_skin_tone", "🖖🏿"),
  ("vulcan_salute_light_skin_tone", "🖖🏻"), ("vulcan_salute_medium-dark_skin_tone", "🖖🏾"),
  ("vulcan_salute_medium-light_skin_tone", "🖖🏼"), ("vulcan_salute_medium_skin_tone", "🖖🏽"),
  ("waffle", "🧇"), ("wales", "🏴󠁧󠁢󠁷󠁬󠁳󠁿"), ("walking", "🚶"), ("wallis_&_futuna", "🇼🇫"),
  ("waning_crescent_moon", "🌘"), ("waning_gibbous_moon", "🌖"), ("warning", "⚠"),
  ("wastebasket", "🗑"), ("watch", "⌚"), ("water_buffalo", "🐃"), ("water_closet", "🚾"),
  ("water_wave", "🌊"), ("watermelon", "🍉"), ("wave", "👋"), ("waving_black_flag", "🏴"),
  ("waving_hand", "👋"), ("waving_hand_dark_skin_tone", "👋🏿"),
  ("waving_hand_light_skin_tone", "👋🏻"), ("waving_hand_medium-dark_skin_tone", "👋🏾"),
  ("waving_hand_medium-light_skin_tone", "👋🏼"), ("waving_hand_medium_skin_tone", "👋🏽"),
  ("waving_white_flag", "🏳"), ("wavy_dash", "〰"), ("waxing_crescent_moon", "🌒"),
  ("waxing_gibbous_moon", "🌔"), ("wc", "🚾"), ("weary", "😩"), ("weary_cat_face", "🙀"),
  ("weary_face", "😩"), ("wedding", "💒"), ("weight_lifter", "🏋"), ("western_sahara", "🇪🇭"),
  ("whale", "🐳"), ("whale2", "🐋"), ("wheel_of_dharma", "☸"), ("wheelchair", "♿"),
  ("wheelchair_symbol", "♿"), ("white-haired_man", "👨‍🦳"), ("white-haired_woman", "👩‍🦳"),
  ("white_check_mark", "✅"), ("white_circle", "⚪"), ("white_exclamation_mark", "❕"),
  ("white_flag", "🏳"), ("white_flower", "💮"), ("white_frowning_face", "☹"), ("white_hair", "🦳"),
  ("white_heart", "🤍"), ("white_heavy_check_mark", "✅"), ("white_large_square", "⬜"),
  ("white_medium-small_square", "◽"), ("white_medium_small_square", "◽"),
  ("white_medium_square", "◻"), ("white_medium_star", "⭐"), ("white_question_mark", "❔"),
  ("white_small_square", "▫"), ("white_square_button", "🔳"), ("white_sun_behind_cloud", "🌥"),
  ("white_sun_behind_cloud_with_rain", "🌦"), ("white_sun_with_small_cloud", "🌤"),
  ("wilted_flower", "🥀"), ("wind_blowing_face", "🌬"), ("wind_chime", "🎐"), ("wind_face", "🌬"),
  ("wine_glass", "🍷"), ("wink", "😉"), ("winking_face", "😉"), ("winking_face_with_tongue", "😜"),
  ("wolf", "🐺"), ("wolf_face", "🐺"), ("woman", "👩"), ("woman_artist", "👩‍🎨"),
  ("woman_artist_dark_skin_tone", "👩🏿‍🎨"), ("woman_artist_light_skin_tone", "👩🏻‍🎨"),
  ("woman_artist_medium-dark_skin_tone", "👩🏾‍🎨"), ("woman_artist_medium-light_skin_tone", "👩🏼‍🎨"),
  ("woman_artist_medium_skin_tone", "👩🏽‍🎨"), ("woman_astronaut", "👩‍🚀"),
  ("woman_astronaut_dark_skin_tone", "👩🏿‍🚀"), ("woman_astronaut_light_skin_tone", "👩🏻‍🚀"),
  ("woman_astronaut_medium-dark_skin_tone", "👩🏾‍🚀"),
  ("woman_astronaut_medium-light_skin_tone", "👩🏼‍🚀"),
  ("woman_astronaut_medium_skin_tone", "👩🏽‍🚀"), ("woman_biking", "🚴‍♀️"),
  ("woman_biking_dark_skin_tone", "🚴🏿‍♀️"), ("woman_biking_light_skin_tone", "🚴🏻‍♀️"),
  ("woman_biking_medium-dark_skin_tone", "🚴🏾‍♀️"),
  ("woman_biking_medium-light_skin_tone", "🚴🏼‍♀️"), ("woman_biking_medium_skin_tone", "🚴🏽‍♀️"),
  ("woman_bouncing_ball", "⛹️‍♀️"), ("woman_bouncing_ball_dark_skin_tone", "⛹🏿‍♀️"),
  ("woman_bouncing_ball_light_skin_tone", "⛹🏻‍♀️"),
  ("woman_bouncing_ball_medium-dark_skin_tone", "⛹🏾‍♀️"),
  ("woman_bouncing_ball_medium-light_skin_tone", "⛹🏼‍♀️"),
  ("woman_bouncing_ball_medium_skin_tone", "⛹🏽‍♀️"), ("woman_bowing", "🙇‍♀️"),
  ("woman_bowing_dark_skin_tone", "🙇🏿‍♀️"), ("woman_bowing_light_skin_tone", "🙇🏻‍♀️"),
  ("woman_bowing_medium-dark_skin_tone", "🙇🏾‍♀️"),
  ("woman_bowing_medium-light_skin_tone", "🙇🏼‍♀️"), ("woman_bowing_medium_skin_tone", "🙇🏽‍♀️"),
  ("woman_cartwheeling", "🤸‍♀️"), ("woman_cartwheeling_dark_skin_tone", "🤸🏿‍♀️"),
  ("woman_cartwheeling_light_skin_tone", "🤸🏻‍♀️"),
  ("woman_cartwheeling_medium-dark_skin_tone", "🤸🏾‍♀️"),
  ("woman_cartwheeling_medium-light_skin_tone", "🤸🏼‍♀️"),
  ("woman_cartwheeling_medium_skin_tone", "🤸🏽‍♀️"), ("woman_climbing", "🧗‍♀️"),
  ("woman_climbing_dark_skin_tone", "🧗🏿‍♀️"), ("woman_climbing_light_skin_tone", "🧗🏻‍♀️"),
  ("woman_climbing_medium-dark_skin_tone", "🧗🏾‍♀️"),
  ("woman_climbing_medium-light_skin_tone", "🧗🏼‍♀️"),
  ("woman_climbing_medium_skin_tone", "🧗🏽‍♀️"), ("woman_construction_worker", "👷‍♀️"),
  ("woman_construction_worker_dark_skin_tone", "👷🏿‍♀️"),
  ("woman_construction_worker_light_skin_tone", "👷🏻‍♀️"),
  ("woman_construction_worker_medium-dark_skin_tone", "👷🏾‍♀️"),
  ("woman_construction_worker_medium-light_skin_tone", "👷🏼‍♀️"),
  ("woman_construction_worker_medium_skin_tone", "👷🏽‍♀️"), ("woman_cook", "👩‍🍳"),
  ("woman_cook_dark_skin_tone", "👩🏿‍🍳"), ("woman_cook_light_skin_tone", "👩🏻‍🍳"),
  ("woman_cook_medium-dark_skin_tone", "👩🏾‍🍳"), ("woman_cook_medium-light_skin_tone", "👩🏼‍🍳"),
  ("woman_cook_medium_skin_tone", "👩🏽‍🍳"), ("woman_dancing", "💃"),
  ("woman_dancing_dark_skin_tone", "💃🏿"), ("woman_dancing_light_skin_tone", "💃🏻"),
  ("woman_dancing_medium-dark_skin_tone", "💃🏾"), ("woman_dancing_medium-light_skin_tone", "💃🏼"),
  ("woman_dancing_medium_skin_tone", "💃🏽"), ("woman_dark_skin_tone", "👩🏿"),
  ("woman_detective", "🕵️‍♀️"), ("woman_detective_dark_skin_tone", "🕵🏿‍♀️"),
  ("woman_detective_light_skin_tone", "🕵🏻‍♀️"),
  ("woman_detective_medium-dark_skin_tone", "🕵🏾‍♀️"),
  ("woman_detective_medium-light_skin_tone", "🕵🏼‍♀️"),
  ("woman_detective_medium_skin_tone", "🕵🏽‍♀️"), ("woman_elf", "🧝‍♀️"),
  ("woman_elf_dark_skin_tone", "🧝🏿‍♀️"), ("woman_elf_light_skin_tone", "🧝🏻‍♀️"),
  ("woman_elf_medium-dark_skin_tone", "🧝🏾‍♀️"), ("woman_elf_medium-light_skin_tone", "🧝🏼‍♀️"),
  ("woman_elf_medium_skin_tone", "🧝🏽‍♀️"), ("woman_facepalming", "🤦‍♀️"),
  ("woman_facepalming_dark_skin_tone", "🤦🏿‍♀️"), ("woman_facepalming_light_skin_tone", "🤦🏻‍♀️"),
  ("woman_facepalming_medium-dark_skin_tone", "🤦🏾‍♀️"),
  ("woman_facepalming_medium-light_skin_tone", "🤦🏼‍♀️"),
  ("woman_facepalming_medium_skin_tone", "🤦🏽‍♀️"), ("woman_factory_worker", "👩‍🏭"),
  ("woman_factory_worker_dark_skin_tone", "👩🏿‍🏭"),
  ("woman_factory_worker_light_skin_tone", "👩🏻‍🏭"),
  ("woman_factory_worker_medium-dark_skin_tone", "👩🏾‍🏭"),
  ("woman_factory_worker_medium-light_skin_tone", "👩🏼‍🏭"),
  ("woman_factory_worker_medium_skin_tone", "👩🏽‍🏭"), ("woman_fairy", "🧚‍♀️"),
  ("woman_fairy_dark_skin_tone", "🧚🏿‍♀️"), ("woman_fairy_light_skin_tone", "🧚🏻‍♀️"),
  ("woman_fairy_medium-dark_skin_tone", "🧚🏾‍♀️"), ("woman_fairy_medium-light_skin_tone", "🧚🏼‍♀️"),
  ("woman_fairy_medium_skin_tone", "🧚🏽‍♀️"), ("woman_farmer", "👩‍🌾"),
  ("woman_farmer_dark_skin_tone", "👩🏿‍🌾"), ("woman_farmer_light_skin_tone", "👩🏻‍🌾"),
  ("woman_farmer_medium-dark_skin_tone", "👩🏾‍🌾"), ("woman_farmer_medium-light_skin_tone", "👩🏼‍🌾"),
  ("woman_farmer_medium_skin_tone", "👩🏽‍🌾"), ("woman_firefighter", "👩‍🚒"),
  ("woman_firefighter_dark_skin_tone", "👩🏿‍🚒"), ("woman_firefighter_light_skin_tone", "👩🏻‍🚒"),
  ("woman_firefighter_medium-dark_skin_tone", "👩🏾‍🚒"),
  ("woman_firefighter_medium-light_skin_tone", "👩🏼‍🚒"),
  ("woman_firefighter_medium_skin_tone", "👩🏽‍🚒"), ("woman_frowning", "🙍‍♀️"),
  ("woman_frowning_dark_skin_tone", "🙍🏿‍♀️"), ("woman_frowning_light_skin_tone", "🙍🏻‍♀️"),
  ("woman_frowning_medium-dark_skin_tone", "🙍🏾‍♀️"),
  ("woman_frowning_medium-light_skin_tone", "🙍🏼‍♀️"),
  ("woman_frowning_medium_skin_tone", "🙍🏽‍♀️"), ("woman_genie", "🧞‍♀️"),
  ("woman_gesturing_no", "🙅‍♀️"), ("woman_gesturing_no_dark_skin_tone", "🙅🏿‍♀️"),
  ("woman_gesturing_no_light_skin_tone", "🙅🏻‍♀️"),
  ("woman_gesturing_no_medium-dark_skin_tone", "🙅🏾‍♀️"),
  ("woman_gesturing_no_medium-light_skin_tone", "🙅🏼‍♀️"),
  ("woman_gesturing_no_medium_skin_tone", "🙅🏽‍♀️"), ("woman_gesturing_ok", "🙆‍♀️"),
  ("woman_gesturing_ok_dark_skin_tone", "🙆🏿‍♀️"), ("woman_gesturing_ok_light_skin_tone", "🙆🏻‍♀️"),
  ("woman_gesturing_ok_medium-dark_skin_tone", "🙆🏾‍♀️"),
  ("woman_gesturing_ok_medium-light_skin_tone", "🙆🏼‍♀️"),
  ("woman_gesturing_ok_medium_skin_tone", "🙆🏽‍♀️"), ("woman_getting_haircut", "💇‍♀️"),
  ("woman_getting_haircut_dark_skin_tone", "💇🏿‍♀️"),
  ("woman_getting_haircut_light_skin_tone", "💇🏻‍♀️"),
  ("woman_getting_haircut_medium-dark_skin_tone", "💇🏾‍♀️"),
  ("woman_getting_haircut_medium-light_skin_tone", "💇🏼‍♀️"),
  ("woman_getting_haircut_medium_skin_tone", "💇🏽‍♀️"), ("woman_getting_massage", "💆‍♀️"),
  ("woman_getting_massage_dark_skin_tone", "💆🏿‍♀️"),
  ("woman_getting_massage_light_skin_tone", "💆🏻‍♀️"),
  ("woman_getting_massage_medium-dark_skin_tone", "💆🏾‍♀️"),
  ("woman_getting_massage_medium-light_skin_tone", "💆🏼‍♀️"),
  ("woman_getting_massage_medium_skin_tone", "💆🏽‍♀️"), ("woman_golfing", "🏌️‍♀️"),
  ("woman_golfing_dark_skin_tone", "🏌🏿‍♀️"), ("woman_golfing_light_skin_tone", "🏌🏻‍♀️"),
  ("woman_golfing_medium-dark_skin_tone", "🏌🏾‍♀️"),
  ("woman_golfing_medium-light_skin_tone", "🏌🏼‍♀️"), ("woman_golfing_medium_skin_tone", "🏌🏽‍♀️"),
  ("woman_guard", "💂‍♀️"), ("woman_guard_dark_skin_tone", "💂🏿‍♀️"),
  ("woman_guard_light_skin_tone", "💂🏻‍♀️"), ("woman_guard_medium-dark_skin_tone", "💂🏾‍♀️"),
  ("woman_guard_medium-light_skin_tone", "💂🏼‍♀️"), ("woman_guard_medium_skin_tone", "💂🏽‍♀️"),
  ("woman_health_worker", "👩‍⚕️"), ("woman_health_worker_dark_skin_tone", "👩🏿‍⚕️"),
  ("woman_health_worker_light_skin_tone", "👩🏻‍⚕️"),
  ("woman_health_worker_medium-dark_skin_tone", "👩🏾‍⚕️"),
  ("woman_health_worker_medium-light_skin_tone", "👩🏼‍⚕️"),
  ("woman_health_worker_medium_skin_tone", "👩🏽‍⚕️"), ("woman_in_lotus_position", "🧘‍♀️"),
  ("woman_in_lotus_position_dark_skin_tone", "🧘🏿‍♀️"),
  ("woman_in_lotus_position_light_skin_tone", "🧘🏻‍♀️"),
  ("woman_in_lotus_position_medium-dark_skin_tone", "🧘🏾‍♀️"),
  ("woman_in_lotus_position_medium-light_skin_tone", "🧘🏼‍♀️"),
  ("woman_in_lotus_position_medium_skin_tone", "🧘🏽‍♀️"), ("woman_in_manual_wheelchair", "👩‍🦽"),
  ("woman_in_motorized_wheelchair", "👩‍🦼"), ("woman_in_steamy_room", "🧖‍♀️"),
  ("woman_in_steamy_room_dark_skin_tone", "🧖🏿‍♀️"),
  ("woman_in_steamy_room_light_skin_tone", "🧖🏻‍♀️"),
  ("woman_in_steamy_room_medium-dark_skin_tone", "🧖🏾‍♀️"),
  ("woman_in_steamy_room_medium-light_skin_tone", "🧖🏼‍♀️"),
  ("woman_in_steamy_room_medium_skin_tone", "🧖🏽‍♀️"), ("woman_judge", "👩‍⚖️"),
  ("woman_judge_dark_skin_tone", "👩🏿‍⚖️"), ("woman_judge_light_skin_tone", "👩🏻‍⚖️"),
  ("woman_judge_medium-dark_skin_tone", "👩🏾‍⚖️"), ("woman_judge_medium-light_skin_tone", "👩🏼‍⚖️"),
  ("woman_judge_medium_skin_tone", "👩🏽‍⚖️"), ("woman_juggling", "🤹‍♀️"),
  ("woman_juggling_dark_skin_tone", "🤹🏿‍♀️"), ("woman_juggling_light_skin_tone", "🤹🏻‍♀️"),
  ("woman_juggling_medium-dark_skin_tone", "🤹🏾‍♀️"),
  ("woman_juggling_medium-light_skin_tone", "🤹🏼‍♀️"),
  ("woman_juggling_medium_skin_tone", "🤹🏽‍♀️"), ("woman_lifting_weights", "🏋️‍♀️"),
  ("woman_lifting_weights_dark_skin_tone", "🏋🏿‍♀️"),
  ("woman_lifting_weights_light_skin_tone", "🏋🏻‍♀️"),
  ("woman_lifting_weights_medium-dark_skin_tone", "🏋🏾‍♀️"),
  ("woman_lifting_weights_medium-light_skin_tone", "🏋🏼‍♀️"),
  ("woman_lifting_weights_medium_skin_tone", "🏋🏽‍♀️"), ("woman_light_skin_tone", "👩🏻"),
  ("woman_mage", "🧙‍♀️"), ("woman_mage_dark_skin_tone", "🧙🏿‍♀️"),
  ("woman_mage_light_skin_tone", "🧙🏻‍♀️"), ("woman_mage_medium-dark_skin_tone", "🧙🏾‍♀️"),
  ("woman_mage_medium-light_skin_tone", "🧙🏼‍♀️"), ("woman_mage_medium_skin_tone", "🧙🏽‍♀️"),
  ("woman_mechanic", "👩‍🔧"), ("woman_mechanic_dark_skin_tone", "👩🏿‍🔧"),
  ("woman_mechanic_light_skin_tone", "👩🏻‍🔧"), ("woman_mechanic_medium-dark_skin_tone", "👩🏾‍🔧"),
  ("woman_mechanic_medium-light_skin_tone", "👩🏼‍🔧"), ("woman_mechanic_medium_skin_tone", "👩🏽‍🔧"),
  ("woman_medium-dark_skin_tone", "👩🏾"), ("woman_medium-light_skin_tone", "👩🏼"),
  ("woman_medium_skin_tone", "👩🏽"), ("woman_mountain_biking", "🚵‍♀️"),
  ("woman_mountain_biking_dark_skin_tone", "🚵🏿‍♀️"),
  ("woman_mountain_biking_light_skin_tone", "🚵🏻‍♀️"),
  ("woman_mountain_biking_medium-dark_skin_tone", "🚵🏾‍♀️"),
  ("woman_mountain_biking_medium-light_skin_tone", "🚵🏼‍♀️"),
  ("woman_mountain_biking_medium_skin_tone", "🚵🏽‍♀️"), ("woman_office_worker", "👩‍💼"),
  ("woman_office_worker_dark_skin_tone", "👩🏿‍💼"), ("woman_office_worker_light_skin_tone", "👩🏻‍💼"),
  ("woman_office_worker_medium-dark_skin_tone", "👩🏾‍💼"),
  ("woman_office_worker_medium-light_skin_tone", "👩🏼‍💼"),
  ("woman_office_worker_medium_skin_tone", "👩🏽‍💼"), ("woman_pilot", "👩‍✈️"),
  ("woman_pilot_dark_skin_tone", "👩🏿‍✈️"), ("woman_pilot_light_skin_tone", "👩🏻‍✈️"),
  ("woman_pilot_medium-dark_skin_tone", "👩🏾‍✈️"), ("woman_pilot_medium-light_skin_tone", "👩🏼‍✈️"),
  ("woman_pilot_medium_skin_tone", "👩🏽‍✈️"), ("woman_playing_handball", "🤾‍♀️"),
  ("woman_playing_handball_dark_skin_tone", "🤾🏿‍♀️"),
  ("woman_playing_handball_light_skin_tone", "🤾🏻‍♀️"),
  ("woman_playing_handball_medium-dark_skin_tone", "🤾🏾‍♀️"),
  ("woman_playing_handball_medium-light_skin_tone", "🤾🏼‍♀️"),
  ("woman_playing_handball_medium_skin_tone", "🤾🏽‍♀️"), ("woman_playing_water_polo", "🤽‍♀️"),
  ("woman_playing_water_polo_dark_skin_tone", "🤽🏿‍♀️"),
  ("woman_playing_water_polo_light_skin_tone", "🤽🏻‍♀️"),
  ("woman_playing_water_polo_medium-dark_skin_tone", "🤽🏾‍♀️"),
  ("woman_playing_water_polo_medium-light_skin_tone", "🤽🏼‍♀️"),
  ("woman_playing_water_polo_medium_skin_tone", "🤽🏽‍♀️"), ("woman_police_officer", "👮‍♀️"),
  ("woman_police_officer_dark_skin_tone", "👮🏿‍♀️"),
  ("woman_police_officer_light_skin_tone", "👮🏻‍♀️"),
  ("woman_police_officer_medium-dark_skin_tone", "👮🏾‍♀️"),
  ("woman_police_officer_medium-light_skin_tone", "👮🏼‍♀️"),
  ("woman_police_officer_medium_skin_tone", "👮🏽‍♀️"), ("woman_pouting", "🙎‍♀️"),
  ("woman_pouting_dark_skin_tone", "🙎🏿‍♀️"), ("woman_pouting_light_skin_tone", "🙎🏻‍♀️"),
  ("woman_pouting_medium-dark_skin_tone", "🙎🏾‍♀️"),
  ("woman_pouting_medium-light_skin_tone", "🙎🏼‍♀️"), ("woman_pouting_medium_skin_tone", "🙎🏽‍♀️"),
  ("woman_raising_hand", "🙋‍♀️"), ("woman_raising_hand_dark_skin_tone", "🙋🏿‍♀️"),
  ("woman_raising_hand_light_skin_tone", "🙋🏻‍♀️"),
  ("woman_raising_hand_medium-dark_skin_tone", "🙋🏾‍♀️"),
  ("woman_raising_hand_medium-light_skin_tone", "🙋🏼‍♀️"),
  ("woman_raising_hand_medium_skin_tone", "🙋🏽‍♀️"), ("woman_rowing_boat", "🚣‍♀️"),
  ("woman_rowing_boat_dark_skin_tone", "🚣🏿‍♀️"), ("woman_rowing_boat_light_skin_tone", "🚣🏻‍♀️"),
  ("woman_rowing_boat_medium-dark_skin_tone", "🚣🏾‍♀️"),
  ("woman_rowing_boat_medium-light_skin_tone", "🚣🏼‍♀️"),
  ("woman_rowing_boat_medium_skin_tone", "🚣🏽‍♀️"), ("woman_running", "🏃‍♀️"),
  ("woman_running_dark_skin_tone", "🏃🏿‍♀️"), ("woman_running_light_skin_tone", "🏃🏻‍♀️"),
  ("woman_running_medium-dark_skin_tone", "🏃🏾‍♀️"),
  ("woman_running_medium-light_skin_tone", "🏃🏼‍♀️"), ("woman_running_medium_skin_tone", "🏃🏽‍♀️"),
  ("woman_scientist", "👩‍🔬"), ("woman_scientist_dark_skin_tone", "👩🏿‍🔬"),
  ("woman_scientist_light_skin_tone", "👩🏻‍🔬"), ("woman_scientist_medium-dark_skin_tone", "👩🏾‍🔬"),
  ("woman_scientist_medium-light_skin_tone", "👩🏼‍🔬"),
  ("woman_scientist_medium_skin_tone", "👩🏽‍🔬"), ("woman_shrugging", "🤷‍♀️"),
  ("woman_shrugging_dark_skin_tone", "🤷🏿‍♀️"), ("woman_shrugging_light_skin_tone", "🤷🏻‍♀️"),
  ("woman_shrugging_medium-dark_skin_tone", "🤷🏾‍♀️"),
  ("woman_shrugging_medium-light_skin_tone", "🤷🏼‍♀️"),
  ("woman_shrugging_medium_skin_tone", "🤷🏽‍♀️"), ("woman_singer", "👩‍🎤"),
  ("woman_singer_dark_skin_tone", "👩🏿‍🎤"), ("woman_singer_light_skin_tone", "👩🏻‍🎤"),
  ("woman_singer_medium-dark_skin_tone", "👩🏾‍🎤"), ("woman_singer_medium-light_skin_tone", "👩🏼‍🎤"),
  ("woman_singer_medium_skin_tone", "👩🏽‍🎤"), ("woman_student", "👩‍🎓"),
  ("woman_student_dark_skin_tone", "👩🏿‍🎓"), ("woman_student_light_skin_tone", "👩🏻‍🎓"),
  ("woman_student_medium-dark_skin_tone", "👩🏾‍🎓"),
  ("woman_student_medium-light_skin_tone", "👩🏼‍🎓"), ("woman_student_medium_skin_tone", "👩🏽‍🎓"),
  ("woman_surfing", "🏄‍♀️"), ("woman_surfing_dark_skin_tone", "🏄🏿‍♀️"),
  ("woman_surfing_light_skin_tone", "🏄🏻‍♀️"), ("woman_surfing_medium-dark_skin_tone", "🏄🏾‍♀️"),
  ("woman_surfing_medium-light_skin_tone", "🏄🏼‍♀️"), ("woman_surfing_medium_skin_tone", "🏄🏽‍♀️"),
  ("woman_swimming", "🏊‍♀️"), ("woman_swimming_dark_skin_tone", "🏊🏿‍♀️"),
  ("woman_swimming_light_skin_tone", "🏊🏻‍♀️"), ("woman_swimming_medium-dark_skin_tone", "🏊🏾‍♀️"),
  ("woman_swimming_medium-light_skin_tone", "🏊🏼‍♀️"),
  ("woman_swimming_medium_skin_tone", "🏊🏽‍♀️"), ("woman_teacher", "👩‍🏫"),
  ("woman_teacher_dark_skin_tone", "👩🏿‍🏫"), ("woman_teacher_light_skin_tone", "👩🏻‍🏫"),
  ("woman_teacher_medium-dark_skin_tone", "👩🏾‍🏫"),
  ("woman_teacher_medium-light_skin_tone", "👩🏼‍🏫"), ("woman_teacher_medium_skin_tone", "👩🏽‍🏫"),
  ("woman_technologist", "👩‍💻"), ("woman_technologist_dark_skin_tone", "👩🏿‍💻"),
  ("woman_technologist_light_skin_tone", "👩🏻‍💻"),
  ("woman_technologist_medium-dark_skin_tone", "👩🏾‍💻"),
  ("woman_technologist_medium-light_skin_tone", "👩🏼‍💻"),
  ("woman_technologist_medium_skin_tone", "👩🏽‍💻"), ("woman_tipping_hand", "💁‍♀️"),
  ("woman_tipping_hand_dark_skin_tone", "💁🏿‍♀️"), ("woman_tipping_hand_light_skin_tone", "💁🏻‍♀️"),
  ("woman_tipping_hand_medium-dark_skin_tone", "💁🏾‍♀️"),
  ("woman_tipping_hand_medium-light_skin_tone", "💁🏼‍♀️"),
  ("woman_tipping_hand_medium_skin_tone", "💁🏽‍♀️"), ("woman_vampire", "🧛‍♀️"),
  ("woman_vampire_dark_skin_tone", "🧛🏿‍♀️"), ("woman_vampire_light_skin_tone", "🧛🏻‍♀️"),
  ("woman_vampire_medium-dark_skin_tone", "🧛🏾‍♀️"),
  ("woman_vampire_medium-light_skin_tone", "🧛🏼‍♀️"), ("woman_vampire_medium_skin_tone", "🧛🏽‍♀️"),
  ("woman_walking", "🚶‍♀️"), ("woman_walking_dark_skin_tone", "🚶🏿‍♀️"),
  ("woman_walking_light_skin_tone", "🚶🏻‍♀️"), ("woman_walking_medium-dark_skin_tone", "🚶🏾‍♀️"),
  ("woman_walking_medium-light_skin_tone", "🚶🏼‍♀️"), ("woman_walking_medium_skin_tone", "🚶🏽‍♀️"),
  ("woman_wearing_turban", "👳‍♀️"), ("woman_wearing_turban_dark_skin_tone", "👳🏿‍♀️"),
  ("woman_wearing_turban_light_skin_tone", "👳🏻‍♀️"),
  ("woman_wearing_turban_medium-dark_skin_tone", "👳🏾‍♀️"),
  ("woman_wearing_turban_medium-light_skin_tone", "👳🏼‍♀️"),
  ("woman_wearing_turban_medium_skin_tone", "👳🏽‍♀️"), ("woman_with_headscarf", "🧕"),
  ("woman_with_headscarf_dark_skin_tone", "🧕🏿"), ("woman_with_headscarf_light_skin_tone", "🧕🏻"),
  ("woman_with_headscarf_medium-dark_skin_tone", "🧕🏾"),
  ("woman_with_headscarf_medium-light_skin_tone", "🧕🏼"),
  ("woman_with_headscarf_medium_skin_tone", "🧕🏽"), ("woman_with_probing_cane", "👩‍🦯"),
  ("woman_zombie", "🧟‍♀️"), ("womans_clothes", "👚"), ("womans_hat", "👒"), ("woman’s_boot", "👢"),
  ("woman’s_clothes", "👚"), ("woman’s_hat", "👒"), ("woman’s_sandal", "👡"),
  ("women_with_bunny_ears", "👯‍♀️"), ("women_wrestling", "🤼‍♀️"), ("womens", "🚺"),
  ("women’s_room", "🚺"), ("woozy_face", "🥴"), ("world_map", "🗺"), ("worried", "😟"),
  ("worried_face", "😟"), ("wrapped_gift", "🎁"), ("wrench", "🔧"), ("writing_hand", "✍"),
  ("writing_hand_dark_skin_tone", "✍🏿"), ("writing_hand_light_skin_tone", "✍🏻"),
  ("writing_hand_medium-dark_skin_tone", "✍🏾"), ("writing_hand_medium-light_skin_tone", "✍🏼"),
  ("writing_hand_medium_skin_tone", "✍🏽"), ("x", "❌"), ("yarn", "🧶"), ("yawning_face", "🥱"),
  ("yellow_circle", "🟡"), ("yellow_heart", "💛"), ("yellow_square", "🟨"), ("yemen", "🇾🇪"),
  ("yen", "💴"), ("yen_banknote", "💴"), ("yin_yang", "☯"), ("yo-yo", "🪀"), ("yum", "😋"),
  ("zambia", "🇿🇲"), ("zany_face", "🤪"), ("zap", "⚡"), ("zebra", "🦓"), ("zero", "0️⃣"),
  ("zimbabwe", "🇿🇼"), ("zipper-mouth_face", "🤐"), ("zipper__mouth_face", "🤐"), ("zombie", "🧟"),
  ("zzz", "💤")]

end TaskQuery.Console
