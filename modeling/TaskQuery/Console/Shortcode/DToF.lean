/-!
# Shortcodes from `d` to `f`

Names of emojis and the emojis they stand for.
-/

namespace TaskQuery.Console

def shortcodesDToF : List (String × String) := [
  ("dagger", "🗡"), ("dagger_knife", "🗡"), ("dancer", "💃"), ("dancers", "👯"), ("dango", "🍡"),
  ("dark_skin_tone", "🏿"), ("dark_sunglasses", "🕶"), ("dart", "🎯"), ("dash", "💨"),
  ("dashing_away", "💨"), ("date", "📅"), ("deaf_person", "🧏"), ("deciduous_tree", "🌳"),
  ("deer", "🦌"), ("delivery_truck", "🚚"), ("denmark", "🇩🇰"), ("department_store", "🏬"),
  ("derelict_house", "🏚"), ("derelict_house_building", "🏚"), ("desert", "🏜"),
  ("desert_island", "🏝"), ("desktop_computer", "🖥"), ("detective", "🕵"),
  ("detective_dark_skin_tone", "🕵🏿"), ("detective_light_skin_tone", "🕵🏻"),
  ("detective_medium-dark_skin_tone", "🕵🏾"), ("detective_medium-light_skin_tone", "🕵🏼"),
  ("detective_medium_skin_tone", "🕵🏽"), ("diamond_shape_with_a_dot_inside", "💠"),
  ("diamond_suit", "♦"), ("diamond_with_a_dot", "💠"), ("diamonds", "♦"), ("diego_garcia", "🇩🇬"),
  ("dim_button", "🔅"), ("direct_hit", "🎯"), ("disappointed", "😞"), ("disappointed_face", "😞"),
  ("disappointed_relieved", "😥"), ("diving_mask", "🤿"), ("diya_lamp", "🪔"), ("dizzy", "💫"),
  ("dizzy_face", "😵"), ("djibouti", "🇩🇯"), ("dna", "🧬"), ("do_not_litter", "🚯"), ("dog", "🐶"),
  ("dog2", "🐕"), ("dog_face", "🐶"), ("dollar", "💵"), ("dollar_banknote", "💵"), ("dolls", "🎎"),
  ("dolphin", "🐬"), ("dominica", "🇩🇲"), ("dominican_republic", "🇩🇴"), ("door", "🚪"),
  ("dotted_six-pointed_star", "🔯"), ("double_curly_loop", "➿"), ("double_exclamation_mark", "‼"),
  ("double_vertical_bar", "⏸"), ("doughnut", "🍩"), ("dove", "🕊"), ("dove_of_peace", "🕊"),
  ("down-left_arrow", "↙"), ("down-right_arrow", "↘"), ("down_arrow", "⬇"),
  ("downcast_face_with_sweat", "😓"), ("downwards_button", "🔽"), ("dragon", "🐉"),
  ("dragon_face", "🐲"), ("dress", "👗"), ("dromedary_camel", "🐪"), ("drooling_face", "🤤"),
  ("drop_of_blood", "🩸"), ("droplet", "💧"), ("drum", "🥁"), ("duck", "🦆"), ("dumpling", "🥟"),
  ("dvd", "📀"), ("e-mail", "📧"), ("e__mail", "📧"), ("eagle", "🦅"), ("ear", "👂"),
  ("ear_dark_skin_tone", "👂🏿"), ("ear_light_skin_tone", "👂🏻"),
  ("ear_medium-dark_skin_tone", "👂🏾"), ("ear_medium-light_skin_tone", "👂🏼"),
  ("ear_medium_skin_tone", "👂🏽"), ("ear_of_corn", "🌽"), ("ear_of_rice", "🌾"),
  ("ear_with_hearing_aid", "🦻"), ("earth_africa", "🌍"), ("earth_americas", "🌎"),
  ("earth_asia", "🌏"), ("ecuador", "🇪🇨"), ("egg", "🍳"), ("eggplant", "🍆"), ("egypt", "🇪🇬"),
  ("eight", "8️⃣"), ("eight-pointed_star", "✴"), ("eight-spoked_asterisk", "✳"),
  ("eight-thirty", "🕣"), ("eight_o’clock", "🕗"), ("eight_pointed_black_star", "✴"),
  ("eight_spoked_asterisk", "✳"), ("eject_button", "⏏"), ("eject_symbol", "⏏"),
  ("el_salvador", "🇸🇻"), ("electric_plug", "🔌"), ("elephant", "🐘"), ("eleven-thirty", "🕦"),
  ("eleven_o’clock", "🕚"), ("elf", "🧝"), ("elf_dark_skin_tone", "🧝🏿"),
  ("elf_light_skin_tone", "🧝🏻"), ("elf_medium-dark_skin_tone", "🧝🏾"),
  ("elf_medium-light_skin_tone", "🧝🏼"), ("elf_medium_skin_tone", "🧝🏽"), ("email", "✉"),
  ("emoji_modifier_fitzpatrick_type__1__2", "🏻"), ("emoji_modifier_fitzpatrick_type__3", "🏼"),
  ("emoji_modifier_fitzpatrick_type__4", "🏽"), ("emoji_modifier_fitzpatrick_type__5", "🏾"),
  ("emoji_modifier_fitzpatrick_type__6", "🏿"), ("end", "🔚"), ("end_arrow", "🔚"),
  ("england", "🏴󠁧󠁢󠁥󠁮󠁧󠁿"), ("envelope", "✉"), ("envelope_with_arrow", "📩"),
  ("equatorial_guinea", "🇬🇶"), ("eritrea", "🇪🇷"), ("estonia", "🇪🇪"), ("ethiopia", "🇪🇹"),
  ("euro", "💶"), ("euro_banknote", "💶"), ("european_castle", "🏰"), ("european_post_office", "🏤"),
  ("european_union", "🇪🇺"), ("evergreen_tree", "🌲"), ("ewe", "🐑"), ("exclamation", "❗"),
  ("exclamation_mark", "❗"), ("exclamation_question_mark", "⁉"), ("exploding_head", "🤯"),
  ("expressionless", "😑"), ("expressionless_face", "😑"), ("eye", "👁"),
  ("eye_in_speech_bubble", "👁️‍🗨️"), ("eyeglasses", "👓"), ("eyes", "👀"),
  ("face_blowing_a_kiss", "😘"), ("face_savoring_food", "😋"), ("face_screaming_in_fear", "😱"),
  ("face_vomiting", "🤮"), ("face_with_hand_over_mouth", "🤭"), ("face_with_head-bandage", "🤕"),
  ("face_with_head__bandage", "🤕"), ("face_with_medical_mask", "😷"), ("face_with_monocle", "🧐"),
  ("face_with_open_mouth", "😮"), ("face_with_raised_eyebrow", "🤨"),
  ("face_with_rolling_eyes", "🙄"), ("face_with_steam_from_nose", "😤"),
  ("face_with_symbols_on_mouth", "🤬"), ("face_with_tears_of_joy", "😂"),
  ("face_with_thermometer", "🤒"), ("face_with_tongue", "😛"), ("face_without_mouth", "😶"),
  ("facepunch", "👊"), ("factory", "🏭"), ("fairy", "🧚"), ("fairy_dark_skin_tone", "🧚🏿"),
  ("fairy_light_skin_tone", "🧚🏻"), ("fairy_medium-dark_skin_tone", "🧚🏾"),
  ("fairy_medium-light_skin_tone", "🧚🏼"), ("fairy_medium_skin_tone", "🧚🏽"), ("falafel", "🧆"),
  ("falkland_islands", "🇫🇰"), ("fallen_leaf", "🍂"), ("family", "👪"), ("family_man_boy", "👨‍👦"),
  ("family_man_boy_boy", "👨‍👦‍👦"), ("family_man_girl", "👨‍👧"), ("family_man_girl_boy", "👨‍👧‍👦"),
  ("family_man_girl_girl", "👨‍👧‍👧"), ("family_man_man_boy", "👨‍👨‍👦"),
  ("family_man_man_boy_boy", "👨‍👨‍👦‍👦"), ("family_man_man_girl", "👨‍👨‍👧"),
  ("family_man_man_girl_boy", "👨‍👨‍👧‍👦"), ("family_man_man_girl_girl", "👨‍👨‍👧‍👧"),
  ("family_man_woman_boy", "👨‍👩‍👦"), ("family_man_woman_boy_boy", "👨‍👩‍👦‍👦"),
  ("family_man_woman_girl", "👨‍👩‍👧"), ("family_man_woman_girl_boy", "👨‍👩‍👧‍👦"),
  ("family_man_woman_girl_girl", "👨‍👩‍👧‍👧"), ("family_woman_boy", "👩‍👦"),
  ("family_woman_boy_boy", "👩‍👦‍👦"), ("family_woman_girl", "👩‍👧"),
  ("family_woman_girl_boy", "👩‍👧‍👦"), ("family_woman_girl_girl", "👩‍👧‍👧"),
  ("family_woman_woman_boy", "👩‍👩‍👦"), ("family_woman_woman_boy_boy", "👩‍👩‍👦‍👦"),
  ("family_woman_woman_girl", "👩‍👩‍👧"), ("family_woman_woman_girl_boy", "👩‍👩‍👧‍👦"),
  ("family_woman_woman_girl_girl", "👩‍👩‍👧‍👧"), ("faroe_islands", "🇫🇴"),
  ("fast-forward_button", "⏩"), ("fast_down_button", "⏬"), ("fast_forward", "⏩"),
  ("fast_reverse_button", "⏪"), ("fast_up_button", "⏫"), ("fax", "📠"), ("fax_machine", "📠"),
  ("fearful", "😨"), ("fearful_face", "😨"), ("feet", "🐾"), ("female_sign", "♀"),
  ("ferris_wheel", "🎡"), ("ferry", "⛴"), ("field_hockey", "🏑"),
  ("field_hockey_stick_and_ball", "🏑"), ("fiji", "🇫🇯"), ("file_cabinet", "🗄"),
  ("file_folder", "📁"), ("film_frames", "🎞"), ("film_projector", "📽"), ("finland", "🇫🇮"),
  ("fire", "🔥"), ("fire_engine", "🚒"), ("fire_extinguisher", "🧯"), ("firecracker", "🧨"),
  ("fireworks", "🎆"), ("first_quarter_moon", "🌓"), ("first_quarter_moon_face", "🌛"),
  ("first_quarter_moon_with_face", "🌛"), ("fish", "🐟"), ("fish_cake", "🍥"),
  ("fish_cake_with_swirl", "🍥"), ("fishing_pole", "🎣"), ("fishing_pole_and_fish", "🎣"),
  ("fist", "✊"), ("five", "5️⃣"), ("five-thirty", "🕠"), ("five_o’clock", "🕔"),
  ("flag_for_afghanistan", "🇦🇫"), ("flag_for_albania", "🇦🇱"), ("flag_for_algeria", "🇩🇿"),
  ("flag_for_american_samoa", "🇦🇸"), ("flag_for_andorra", "🇦🇩"), ("flag_for_angola", "🇦🇴"),
  ("flag_for_anguilla", "🇦🇮"), ("flag_for_antarctica", "🇦🇶"),
  ("flag_for_antigua_&_barbuda", "🇦🇬"), ("flag_for_argentina", "🇦🇷"), ("flag_for_armenia", "🇦🇲"),
  ("flag_for_aruba", "🇦🇼"), ("flag_for_ascension_island", "🇦🇨"), ("flag_for_australia", "🇦🇺"),
  ("flag_for_austria", "🇦🇹"), ("flag_for_azerbaijan", "🇦🇿"), ("flag_for_bahamas", "🇧🇸"),
  ("flag_for_bahrain", "🇧🇭"), ("flag_for_bangladesh", "🇧🇩"), ("flag_for_barbados", "🇧🇧"),
  ("flag_for_belarus", "🇧🇾"), ("flag_for_belgium", "🇧🇪"), ("flag_for_belize", "🇧🇿"),
  ("flag_for_benin", "🇧🇯"), ("flag_for_bermuda", "🇧🇲"), ("flag_for_bhutan", "🇧🇹"),
  ("flag_for_bolivia", "🇧🇴"), ("flag_for_bosnia_&_herzegovina", "🇧🇦"),
  ("flag_for_botswana", "🇧🇼"), ("flag_for_bouvet_island", "🇧🇻"), ("flag_for_brazil", "🇧🇷"),
  ("flag_for_british_indian_ocean_territory", "🇮🇴"), ("flag_for_british_virgin_islands", "🇻🇬"),
  ("flag_for_brunei", "🇧🇳"), ("flag_for_bulgaria", "🇧🇬"), ("flag_for_burkina_faso", "🇧🇫"),
  ("flag_for_burundi", "🇧🇮"), ("flag_for_cambodia", "🇰🇭"), ("flag_for_cameroon", "🇨🇲"),
  ("flag_for_canada", "🇨🇦"), ("flag_for_canary_islands", "🇮🇨"), ("flag_for_cape_verde", "🇨🇻"),
  ("flag_for_caribbean_netherlands", "🇧🇶"), ("flag_for_cayman_islands", "🇰🇾"),
  ("flag_for_central_african_republic", "🇨🇫"), ("flag_for_ceuta_&_melilla", "🇪🇦"),
  ("flag_for_chad", "🇹🇩"), ("flag_for_chile", "🇨🇱"), ("flag_for_china", "🇨🇳"),
  ("flag_for_christmas_island", "🇨🇽"), ("flag_for_clipperton_island", "🇨🇵"),
  ("flag_for_cocos__islands", "🇨🇨"), ("flag_for_colombia", "🇨🇴"), ("flag_for_comoros", "🇰🇲"),
  ("flag_for_congo____brazzaville", "🇨🇬"), ("flag_for_congo____kinshasa", "🇨🇩"),
  ("flag_for_cook_islands", "🇨🇰"), ("flag_for_costa_rica", "🇨🇷"), ("flag_for_croatia", "🇭🇷"),
  ("flag_for_cuba", "🇨🇺"), ("flag_for_curaçao", "🇨🇼"), ("flag_for_cyprus", "🇨🇾"),
  ("flag_for_czech_republic", "🇨🇿"), ("flag_for_côte_d’ivoire", "🇨🇮"), ("flag_for_denmark", "🇩🇰"),
  ("flag_for_diego_garcia", "🇩🇬"), ("flag_for_djibouti", "🇩🇯"), ("flag_for_dominica", "🇩🇲"),
  ("flag_for_dominican_republic", "🇩🇴"), ("flag_for_ecuador", "🇪🇨"), ("flag_for_egypt", "🇪🇬"),
  ("flag_for_el_salvador", "🇸🇻"), ("flag_for_equatorial_guinea", "🇬🇶"),
  ("flag_for_eritrea", "🇪🇷"), ("flag_for_estonia", "🇪🇪"), ("flag_for_ethiopia", "🇪🇹"),
  ("flag_for_european_union", "🇪🇺"), ("flag_for_falkland_islands", "🇫🇰"),
  ("flag_for_faroe_islands", "🇫🇴"), ("flag_for_fiji", "🇫🇯"), ("flag_for_finland", "🇫🇮"),
  ("flag_for_france", "🇫🇷"), ("flag_for_french_guiana", "🇬🇫"),
  ("flag_for_french_polynesia", "🇵🇫"), ("flag_for_french_southern_territories", "🇹🇫"),
  ("flag_for_gabon", "🇬🇦"), ("flag_for_gambia", "🇬🇲"), ("flag_for_georgia", "🇬🇪"),
  ("flag_for_germany", "🇩🇪"), ("flag_for_ghana", "🇬🇭"), ("flag_for_gibraltar", "🇬🇮"),
  ("flag_for_greece", "🇬🇷"), ("flag_for_greenland", "🇬🇱"), ("flag_for_grenada", "🇬🇩"),
  ("flag_for_guadeloupe", "🇬🇵"), ("flag_for_guam", "🇬🇺"), ("flag_for_guatemala", "🇬🇹"),
  ("flag_for_guernsey", "🇬🇬"), ("flag_for_guinea", "🇬🇳"), ("flag_for_guinea__bissau", "🇬🇼"),
  ("flag_for_guyana", "🇬🇾"), ("flag_for_haiti", "🇭🇹"),
  ("flag_for_heard_&_mcdonald_islands", "🇭🇲"), ("flag_for_honduras", "🇭🇳"),
  ("flag_for_hong_kong", "🇭🇰"), ("flag_for_hungary", "🇭🇺"), ("flag_for_iceland", "🇮🇸"),
  ("flag_for_india", "🇮🇳"), ("flag_for_indonesia", "🇮🇩"), ("flag_for_iran", "🇮🇷"),
  ("flag_for_iraq", "🇮🇶"), ("flag_for_ireland", "🇮🇪"), ("flag_for_isle_of_man", "🇮🇲"),
  ("flag_for_israel", "🇮🇱"), ("flag_for_italy", "🇮🇹"), ("flag_for_jamaica", "🇯🇲"),
  ("flag_for_japan", "🇯🇵"), ("flag_for_jersey", "🇯🇪"), ("flag_for_jordan", "🇯🇴"),
  ("flag_for_kazakhstan", "🇰🇿"), ("flag_for_kenya", "🇰🇪"), ("flag_for_kiribati", "🇰🇮"),
  ("flag_for_kosovo", "🇽🇰"), ("flag_for_kuwait", "🇰🇼"), ("flag_for_kyrgyzstan", "🇰🇬"),
  ("flag_for_laos", "🇱🇦"), ("flag_for_latvia", "🇱🇻"), ("flag_for_lebanon", "🇱🇧"),
  ("flag_for_lesotho", "🇱🇸"), ("flag_for_liberia", "🇱🇷"), ("flag_for_libya", "🇱🇾"),
  ("flag_for_liechtenstein", "🇱🇮"), ("flag_for_lithuania", "🇱🇹"), ("flag_for_luxembourg", "🇱🇺"),
  ("flag_for_macau", "🇲🇴"), ("flag_for_macedonia", "🇲🇰"), ("flag_for_madagascar", "🇲🇬"),
  ("flag_for_malawi", "🇲🇼"), ("flag_for_malaysia", "🇲🇾"), ("flag_for_maldives", "🇲🇻"),
  ("flag_for_mali", "🇲🇱"), ("flag_for_malta", "🇲🇹"), ("flag_for_marshall_islands", "🇲🇭"),
  ("flag_for_martinique", "🇲🇶"), ("flag_for_mauritania", "🇲🇷"), ("flag_for_mauritius", "🇲🇺"),
  ("flag_for_mayotte", "🇾🇹"), ("flag_for_mexico", "🇲🇽"), ("flag_for_micronesia", "🇫🇲"),
  ("flag_for_moldova", "🇲🇩"), ("flag_for_monaco", "🇲🇨"), ("flag_for_mongolia", "🇲🇳"),
  ("flag_for_montenegro", "🇲🇪"), ("flag_for_montserrat", "🇲🇸"), ("flag_for_morocco", "🇲🇦"),
  ("flag_for_mozambique", "🇲🇿"), ("flag_for_myanmar", "🇲🇲"), ("flag_for_namibia", "🇳🇦"),
  ("flag_for_nauru", "🇳🇷"), ("flag_for_nepal", "🇳🇵"), ("flag_for_netherlands", "🇳🇱"),
  ("flag_for_new_caledonia", "🇳🇨"), ("flag_for_new_zealand", "🇳🇿"), ("flag_for_nicaragua", "🇳🇮"),
  ("flag_for_niger", "🇳🇪"), ("flag_for_nigeria", "🇳🇬"), ("flag_for_niue", "🇳🇺"),
  ("flag_for_norfolk_island", "🇳🇫"), ("flag_for_north_korea", "🇰🇵"),
  ("flag_for_northern_mariana_islands", "🇲🇵"), ("flag_for_norway", "🇳🇴"), ("flag_for_oman", "🇴🇲"),
  ("flag_for_pakistan", "🇵🇰"), ("flag_for_palau", "🇵🇼"),
  ("flag_for_palestinian_territories", "🇵🇸"), ("flag_for_panama", "🇵🇦"),
  ("flag_for_papua_new_guinea", "🇵🇬"), ("flag_for_paraguay", "🇵🇾"), ("flag_for_peru", "🇵🇪"),
  ("flag_for_philippines", "🇵🇭"), ("flag_for_pitcairn_islands", "🇵🇳"), ("flag_for_poland", "🇵🇱"),
  ("flag_for_portugal", "🇵🇹"), ("flag_for_puerto_rico", "🇵🇷"), ("flag_for_qatar", "🇶🇦"),
  ("flag_for_romania", "🇷🇴"), ("flag_for_russia", "🇷🇺"), ("flag_for_rwanda", "🇷🇼"),
  ("flag_for_réunion", "🇷🇪"), ("flag_for_samoa", "🇼🇸"), ("flag_for_san_marino", "🇸🇲"),
  ("flag_for_saudi_arabia", "🇸🇦"), ("flag_for_senegal", "🇸🇳"), ("flag_for_serbia", "🇷🇸"),
  ("flag_for_seychelles", "🇸🇨"), ("flag_for_sierra_leone", "🇸🇱"), ("flag_for_singapore", "🇸🇬"),
  ("flag_for_sint_maarten", "🇸🇽"), ("flag_for_slovakia", "🇸🇰"), ("flag_for_slovenia", "🇸🇮"),
  ("flag_for_solomon_islands", "🇸🇧"), ("flag_for_somalia", "🇸🇴"), ("flag_for_south_africa", "🇿🇦"),
  ("flag_for_south_georgia_&_south_sandwich_islands", "🇬🇸"), ("flag_for_south_korea", "🇰🇷"),
  ("flag_for_south_sudan", "🇸🇸"), ("flag_for_spain", "🇪🇸"), ("flag_for_sri_lanka", "🇱🇰"),
  ("flag_for_st._barthélemy", "🇧🇱"), ("flag_for_st._helena", "🇸🇭"),
  ("flag_for_st._kitts_&_nevis", "🇰🇳"), ("flag_for_st._lucia", "🇱🇨"),
  ("flag_for_st._martin", "🇲🇫"), ("flag_for_st._pierre_&_miquelon", "🇵🇲"),
  ("flag_for_st._vincent_&_grenadines", "🇻🇨"), ("flag_for_sudan", "🇸🇩"),
  ("flag_for_suriname", "🇸🇷"), ("flag_for_svalbard_&_jan_mayen", "🇸🇯"),
  ("flag_for_swaziland", "🇸🇿"), ("flag_for_sweden", "🇸🇪"), ("flag_for_switzerland", "🇨🇭"),
  ("flag_for_syria", "🇸🇾"), ("flag_for_são_tomé_&_príncipe", "🇸🇹"), ("flag_for_taiwan", "🇹🇼"),
  ("flag_for_tajikistan", "🇹🇯"), ("flag_for_tanzania", "🇹🇿"), ("flag_for_thailand", "🇹🇭"),
  ("flag_for_timor__leste", "🇹🇱"), ("flag_for_togo", "🇹🇬"), ("flag_for_tokelau", "🇹🇰"),
  ("flag_for_tonga", "🇹🇴"), ("flag_for_trinidad_&_tobago", "🇹🇹"),
  ("flag_for_tristan_da_cunha", "🇹🇦"), ("flag_for_tunisia", "🇹🇳"), ("flag_for_turkey", "🇹🇷"),
  ("flag_for_turkmenistan", "🇹🇲"), ("flag_for_turks_&_caicos_islands", "🇹🇨"),
  ("flag_for_tuvalu", "🇹🇻"), ("flag_for_u.s._outlying_islands", "🇺🇲"),
  ("flag_for_u.s._virgin_islands", "🇻🇮"), ("flag_for_uganda", "🇺🇬"), ("flag_for_ukraine", "🇺🇦"),
  ("flag_for_united_arab_emirates", "🇦🇪"), ("flag_for_united_kingdom", "🇬🇧"),
  ("flag_for_united_states", "🇺🇸"), ("flag_for_uruguay", "🇺🇾"), ("flag_for_uzbekistan", "🇺🇿"),
  ("flag_for_vanuatu", "🇻🇺"), ("flag_for_vatican_city", "🇻🇦"), ("flag_for_venezuela", "🇻🇪"),
  ("flag_for_vietnam", "🇻🇳"), ("flag_for_wallis_&_futuna", "🇼🇫"),
  ("flag_for_western_sahara", "🇪🇭"), ("flag_for_yemen", "🇾🇪"), ("flag_for_zambia", "🇿🇲"),
  ("flag_for_zimbabwe", "🇿🇼"), ("flag_for_åland_islands", "🇦🇽"), ("flag_in_hole", "⛳"),
  ("flags", "🎏"), ("flamingo", "🦩"), ("flashlight", "🔦"), ("flat_shoe", "🥿"),
  ("fleur-de-lis", "⚜"), ("fleur__de__lis", "⚜"), ("flexed_biceps", "💪"),
  ("flexed_biceps_dark_skin_tone", "💪🏿"), ("flexed_biceps_light_skin_tone", "💪🏻"),
  ("flexed_biceps_medium-dark_skin_tone", "💪🏾"), ("flexed_biceps_medium-light_skin_tone", "💪🏼"),
  ("flexed_biceps_medium_skin_tone", "💪🏽"), ("flipper", "🐬"), ("floppy_disk", "💾"),
  ("flower_playing_cards", "🎴"), ("flushed", "😳"), ("flushed_face", "😳"), ("flying_disc", "🥏"),
  ("flying_saucer", "🛸"), ("fog", "🌫"), ("foggy", "🌁"), ("folded_hands", "🙏"),
  ("folded_hands_dark_skin_tone", "🙏🏿"), ("folded_hands_light_skin_tone", "🙏🏻"),
  ("folded_hands_medium-dark_skin_tone", "🙏🏾"), ("folded_hands_medium-light_skin_tone", "🙏🏼"),
  ("folded_hands_medium_skin_tone", "🙏🏽"), ("foot", "🦶"), ("football", "🏈"), ("footprints", "👣"),
  ("fork_and_knife", "🍴"), ("fork_and_knife_with_plate", "🍽"), ("fortune_cookie", "🥠"),
  ("fountain", "⛲"), ("fountain_pen", "🖋"), ("four", "4️⃣"), ("four-thirty", "🕟"),
  ("four_leaf_clover", "🍀"), ("four_o’clock", "🕓"), ("fox_face", "🦊"),
  ("frame_with_picture", "🖼"), ("framed_picture", "🖼"), ("france", "🇫🇷"), ("free", "🆓"),
  ("free_button", "🆓"), ("french_fries", "🍟"), ("french_guiana", "🇬🇫"),
  ("french_polynesia", "🇵🇫"), ("french_southern_territories", "🇹🇫"), ("fried_shrimp", "🍤"),
  ("fries", "🍟"), ("frog", "🐸"), ("frog_face", "🐸"), ("front-facing_baby_chick", "🐥"),
  ("frowning", "😦"), ("frowning_face", "☹"), ("frowning_face_with_open_mouth", "😦"),
  ("fuel_pump", "⛽"), ("fuelpump", "⛽"), ("full_moon", "🌕"), ("full_moon_face", "🌝"),
  ("full_moon_with_face", "🌝"), ("funeral_urn", "⚱")]

end TaskQuery.Console
