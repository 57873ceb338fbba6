/-!
Names of pictures.

Every entry has the code points of a picture and then its names. Flags have the two letters of a
country in place of code points. Pictures of people come in five further shades of skin, whose names
are made from theirs.
-/

namespace CodeBehind.Console.Emoji

def flags : List String := [
  "ac:ascension_island ad:andorra ae:united_arab_emirates af:afghanistan ag:antigua_&_barbuda",
  "ai:anguilla al:albania am:armenia ao:angola aq:antarctica ar:argentina as:american_samoa",
  "at:austria au:australia aw:aruba ax:åland_islands az:azerbaijan ba:bosnia_&_herzegovina",
  "bb:barbados bd:bangladesh be:belgium bf:burkina_faso bg:bulgaria bh:bahrain bi:burundi",
  "bj:benin bl:st._barthélemy bm:bermuda bn:brunei bo:bolivia bq:caribbean_netherlands",
  "br:brazil bs:bahamas bt:bhutan bv:bouvet_island bw:botswana by:belarus bz:belize ca:canada",
  "cf:central_african_republic ch:switzerland ci:côte_d’ivoire ck:cook_islands cl:chile",
  "cm:cameroon cn:china co:colombia cp:clipperton_island cr:costa_rica cu:cuba cv:cape_verde",
  "cw:curaçao cx:christmas_island cy:cyprus de:germany dg:diego_garcia dj:djibouti dk:denmark",
  "dm:dominica do:dominican_republic dz:algeria ea:ceuta_&_melilla ec:ecuador ee:estonia",
  "eg:egypt eh:western_sahara er:eritrea es:spain et:ethiopia eu:european_union fi:finland",
  "fj:fiji fk:falkland_islands fm:micronesia fo:faroe_islands fr:france ga:gabon",
  "gb:united_kingdom gd:grenada ge:georgia gf:french_guiana gg:guernsey gh:ghana gi:gibraltar",
  "gl:greenland gm:gambia gn:guinea gp:guadeloupe gq:equatorial_guinea gr:greece",
  "gs:south_georgia_&_south_sandwich_islands gt:guatemala gu:guam gy:guyana",
  "hm:heard_&_mcdonald_islands hn:honduras hr:croatia ht:haiti hu:hungary ic:canary_islands",
  "id:indonesia ie:ireland il:israel im:isle_of_man in:india io:british_indian_ocean_territory",
  "iq:iraq ir:iran is:iceland it:italy je:jersey jm:jamaica jo:jordan ke:kenya kg:kyrgyzstan",
  "kh:cambodia ki:kiribati km:comoros kn:st._kitts_&_nevis kp:north_korea kr:south_korea",
  "kw:kuwait ky:cayman_islands kz:kazakhstan la:laos lb:lebanon lc:st._lucia li:liechtenstein",
  "lk:sri_lanka lr:liberia ls:lesotho lt:lithuania lu:luxembourg lv:latvia ly:libya ma:morocco",
  "mc:monaco md:moldova me:montenegro mf:st._martin mg:madagascar mh:marshall_islands",
  "mk:macedonia ml:mali mn:mongolia mp:northern_mariana_islands mq:martinique mr:mauritania",
  "ms:montserrat mt:malta mu:mauritius mv:maldives mw:malawi mx:mexico my:malaysia",
  "mz:mozambique na:namibia nc:new_caledonia ne:niger nf:norfolk_island ng:nigeria ni:nicaragua",
  "nl:netherlands no:norway np:nepal nr:nauru nu:niue nz:new_zealand om:oman pa:panama pe:peru",
  "pf:french_polynesia pg:papua_new_guinea ph:philippines pk:pakistan pl:poland",
  "pm:st._pierre_&_miquelon pn:pitcairn_islands pr:puerto_rico ps:palestinian_territories",
  "pt:portugal pw:palau py:paraguay qa:qatar re:réunion ro:romania rs:serbia ru:russia",
  "rw:rwanda sa:saudi_arabia sb:solomon_islands sc:seychelles sd:sudan se:sweden sg:singapore",
  "sh:st._helena si:slovenia sj:svalbard_&_jan_mayen sk:slovakia sl:sierra_leone sm:san_marino",
  "sn:senegal so:somalia sr:suriname ss:south_sudan st:são_tomé_&_príncipe sv:el_salvador",
  "sx:sint_maarten sy:syria sz:swaziland ta:tristan_da_cunha tc:turks_&_caicos_islands td:chad",
  "tf:french_southern_territories tg:togo th:thailand tj:tajikistan tk:tokelau tm:turkmenistan",
  "tn:tunisia to:tonga tt:trinidad_&_tobago tv:tuvalu tw:taiwan tz:tanzania ua:ukraine",
  "ug:uganda um:u.s._outlying_islands us:united_states uy:uruguay uz:uzbekistan va:vatican_city",
  "vc:st._vincent_&_grenadines ve:venezuela vg:british_virgin_islands vi:u.s._virgin_islands",
  "vn:vietnam vu:vanuatu wf:wallis_&_futuna ws:samoa xk:kosovo ye:yemen yt:mayotte",
  "za:south_africa zm:zambia zw:zimbabwe"]

/-- Pictures of people that come in all shades of skin. -/
def people : List String := [
  "261d:index_pointing_up 26f9:person_bouncing_ball",
  "26f9-fe0f-200d-2640-fe0f:woman_bouncing_ball 26f9-fe0f-200d-2642-fe0f:man_bouncing_ball",
  "270a:raised_fist 270b:raised_hand 270c:victory_hand 270d:writing_hand 1f385:santa_claus",
  "1f3c2:snowboarder 1f3c3:person_running 1f3c3-200d-2640-fe0f:woman_running",
  "1f3c3-200d-2642-fe0f:man_running 1f3c4:person_surfing 1f3c4-200d-2640-fe0f:woman_surfing",
  "1f3c4-200d-2642-fe0f:man_surfing 1f3c7:horse_racing 1f3ca:person_swimming",
  "1f3ca-200d-2640-fe0f:woman_swimming 1f3ca-200d-2642-fe0f:man_swimming",
  "1f3cb:person_lifting_weights 1f3cb-fe0f-200d-2640-fe0f:woman_lifting_weights",
  "1f3cb-fe0f-200d-2642-fe0f:man_lifting_weights 1f3cc:person_golfing",
  "1f3cc-fe0f-200d-2640-fe0f:woman_golfing 1f3cc-fe0f-200d-2642-fe0f:man_golfing 1f442:ear",
  "1f443:nose 1f446:backhand_index_pointing_up 1f447:backhand_index_pointing_down",
  "1f448:backhand_index_pointing_left 1f449:backhand_index_pointing_right 1f44a:oncoming_fist",
  "1f44b:waving_hand 1f44c:ok_hand 1f44d:thumbs_up 1f44e:thumbs_down 1f44f:clapping_hands",
  "1f450:open_hands 1f466:boy 1f467:girl 1f468:man 1f468-200d-2695-fe0f:man_health_worker",
  "1f468-200d-2696-fe0f:man_judge 1f468-200d-2708-fe0f:man_pilot 1f468-200d-1f33e:man_farmer",
  "1f468-200d-1f373:man_cook 1f468-200d-1f393:man_student 1f468-200d-1f3a4:man_singer",
  "1f468-200d-1f3a8:man_artist 1f468-200d-1f3eb:man_teacher 1f468-200d-1f3ed:man_factory_worker",
  "1f468-200d-1f4bb:man_technologist 1f468-200d-1f4bc:man_office_worker",
  "1f468-200d-1f527:man_mechanic 1f468-200d-1f52c:man_scientist 1f468-200d-1f680:man_astronaut",
  "1f468-200d-1f692:man_firefighter 1f469:woman 1f469-200d-2695-fe0f:woman_health_worker",
  "1f469-200d-2696-fe0f:woman_judge 1f469-200d-2708-fe0f:woman_pilot",
  "1f469-200d-1f33e:woman_farmer 1f469-200d-1f373:woman_cook 1f469-200d-1f393:woman_student",
  "1f469-200d-1f3a4:woman_singer 1f469-200d-1f3a8:woman_artist 1f469-200d-1f3eb:woman_teacher",
  "1f469-200d-1f3ed:woman_factory_worker 1f469-200d-1f4bb:woman_technologist",
  "1f469-200d-1f4bc:woman_office_worker 1f469-200d-1f527:woman_mechanic",
  "1f469-200d-1f52c:woman_scientist 1f469-200d-1f680:woman_astronaut",
  "1f469-200d-1f692:woman_firefighter 1f46e:police_officer",
  "1f46e-200d-2640-fe0f:woman_police_officer 1f46e-200d-2642-fe0f:man_police_officer",
  "1f470:bride_with_veil 1f471:blond-haired_person 1f471-200d-2640-fe0f:blond-haired_woman",
  "1f471-200d-2642-fe0f:blond-haired_man 1f472:man_with_chinese_cap 1f473:person_wearing_turban",
  "1f473-200d-2640-fe0f:woman_wearing_turban 1f473-200d-2642-fe0f:man_wearing_turban",
  "1f474:old_man 1f475:old_woman 1f476:baby 1f477:construction_worker",
  "1f477-200d-2640-fe0f:woman_construction_worker 1f477-200d-2642-fe0f:man_construction_worker",
  "1f478:princess 1f47c:baby_angel 1f481:person_tipping_hand",
  "1f481-200d-2640-fe0f:woman_tipping_hand 1f481-200d-2642-fe0f:man_tipping_hand 1f482:guard",
  "1f482-200d-2640-fe0f:woman_guard 1f482-200d-2642-fe0f:man_guard 1f483:woman_dancing",
  "1f485:nail_polish 1f486:person_getting_massage 1f486-200d-2640-fe0f:woman_getting_massage",
  "1f486-200d-2642-fe0f:man_getting_massage 1f487:person_getting_haircut",
  "1f487-200d-2640-fe0f:woman_getting_haircut 1f487-200d-2642-fe0f:man_getting_haircut",
  "1f4aa:flexed_biceps 1f574:man_in_suit_levitating 1f575:detective",
  "1f575-fe0f-200d-2640-fe0f:woman_detective 1f575-fe0f-200d-2642-fe0f:man_detective",
  "1f57a:man_dancing 1f590:hand_with_fingers_splayed 1f595:middle_finger 1f596:vulcan_salute",
  "1f645:person_gesturing_no 1f645-200d-2640-fe0f:woman_gesturing_no",
  "1f645-200d-2642-fe0f:man_gesturing_no 1f646:person_gesturing_ok",
  "1f646-200d-2640-fe0f:woman_gesturing_ok 1f646-200d-2642-fe0f:man_gesturing_ok",
  "1f647:person_bowing 1f647-200d-2640-fe0f:woman_bowing 1f647-200d-2642-fe0f:man_bowing",
  "1f64b:person_raising_hand 1f64b-200d-2640-fe0f:woman_raising_hand",
  "1f64b-200d-2642-fe0f:man_raising_hand 1f64c:raising_hands 1f64d:person_frowning",
  "1f64d-200d-2640-fe0f:woman_frowning 1f64d-200d-2642-fe0f:man_frowning 1f64e:person_pouting",
  "1f64e-200d-2640-fe0f:woman_pouting 1f64e-200d-2642-fe0f:man_pouting 1f64f:folded_hands",
  "1f6a3:person_rowing_boat 1f6a3-200d-2640-fe0f:woman_rowing_boat",
  "1f6a3-200d-2642-fe0f:man_rowing_boat 1f6b4:person_biking 1f6b4-200d-2640-fe0f:woman_biking",
  "1f6b4-200d-2642-fe0f:man_biking 1f6b5:person_mountain_biking",
  "1f6b5-200d-2640-fe0f:woman_mountain_biking 1f6b5-200d-2642-fe0f:man_mountain_biking",
  "1f6b6:person_walking 1f6b6-200d-2640-fe0f:woman_walking 1f6b6-200d-2642-fe0f:man_walking",
  "1f6c0:person_taking_bath 1f6cc:person_in_bed 1f918:sign_of_the_horns 1f919:call_me_hand",
  "1f91a:raised_back_of_hand 1f91b:left-facing_fist 1f91c:right-facing_fist",
  "1f91e:crossed_fingers 1f91f:love-you_gesture 1f926:person_facepalming",
  "1f926-200d-2640-fe0f:woman_facepalming 1f926-200d-2642-fe0f:man_facepalming",
  "1f930:pregnant_woman 1f931:breast-feeding 1f932:palms_up_together 1f933:selfie 1f934:prince",
  "1f935:man_in_tuxedo 1f936:mrs._claus 1f937:person_shrugging",
  "1f937-200d-2640-fe0f:woman_shrugging 1f937-200d-2642-fe0f:man_shrugging",
  "1f938:person_cartwheeling 1f938-200d-2640-fe0f:woman_cartwheeling",
  "1f938-200d-2642-fe0f:man_cartwheeling 1f939:person_juggling",
  "1f939-200d-2640-fe0f:woman_juggling 1f939-200d-2642-fe0f:man_juggling",
  "1f93d:person_playing_water_polo 1f93d-200d-2640-fe0f:woman_playing_water_polo",
  "1f93d-200d-2642-fe0f:man_playing_water_polo 1f93e:person_playing_handball",
  "1f93e-200d-2640-fe0f:woman_playing_handball 1f93e-200d-2642-fe0f:man_playing_handball",
  "1f9d1:adult 1f9d2:child 1f9d3:older_adult 1f9d4:bearded_person 1f9d5:woman_with_headscarf",
  "1f9d6:person_in_steamy_room 1f9d6-200d-2640-fe0f:woman_in_steamy_room",
  "1f9d6-200d-2642-fe0f:man_in_steamy_room 1f9d7:person_climbing",
  "1f9d7-200d-2640-fe0f:woman_climbing 1f9d7-200d-2642-fe0f:man_climbing",
  "1f9d8:person_in_lotus_position 1f9d8-200d-2640-fe0f:woman_in_lotus_position",
  "1f9d8-200d-2642-fe0f:man_in_lotus_position 1f9d9:mage 1f9d9-200d-2640-fe0f:woman_mage",
  "1f9d9-200d-2642-fe0f:man_mage 1f9da:fairy 1f9da-200d-2640-fe0f:woman_fairy",
  "1f9da-200d-2642-fe0f:man_fairy 1f9db:vampire 1f9db-200d-2640-fe0f:woman_vampire",
  "1f9db-200d-2642-fe0f:man_vampire 1f9dc:merperson 1f9dc-200d-2640-fe0f:mermaid",
  "1f9dc-200d-2642-fe0f:merman 1f9dd:elf 1f9dd-200d-2640-fe0f:woman_elf",
  "1f9dd-200d-2642-fe0f:man_elf"]

def symbols : List String := [
  "23-20e3:keycap_number_sign 23-fe0f-20e3:keycap_# 2a-20e3:keycap_asterisk",
  "2a-fe0f-20e3:keycap_* 30-20e3:keycap_digit_zero 30-fe0f-20e3:keycap_0,zero",
  "31-20e3:keycap_digit_one 31-fe0f-20e3:keycap_1,one 32-20e3:keycap_digit_two",
  "32-fe0f-20e3:keycap_2,two 33-20e3:keycap_digit_three 33-fe0f-20e3:keycap_3,three",
  "34-20e3:keycap_digit_four 34-fe0f-20e3:keycap_4,four 35-20e3:keycap_digit_five",
  "35-fe0f-20e3:keycap_5,five 36-20e3:keycap_digit_six 36-fe0f-20e3:keycap_6,six",
  "37-20e3:keycap_digit_seven 37-fe0f-20e3:keycap_7,seven 38-20e3:keycap_digit_eight",
  "38-fe0f-20e3:keycap_8,eight 39-20e3:keycap_digit_nine 39-fe0f-20e3:keycap_9,nine",
  "a9:copyright ae:registered 203c:double_exclamation_mark,bangbang",
  "2049:exclamation_question_mark,interrobang 2122:trade_mark,tm",
  "2139:information,information_source 2194:left-right_arrow,left_right_arrow",
  "2195:up-down_arrow,arrow_up_down 2196:up-left_arrow,arrow_upper_left",
  "2197:up-right_arrow,arrow_upper_right 2198:down-right_arrow,arrow_lower_right",
  "2199:down-left_arrow,arrow_lower_left",
  "21a9:right_arrow_curving_left,leftwards_arrow_with_hook",
  "21aa:left_arrow_curving_right,arrow_right_hook 231a:watch 231b:hourglass_done,hourglass",
  "2328:keyboard 2388:helm_symbol 23cf:eject_button,eject_symbol",
  "23e9:fast-forward_button,fast_forward 23ea:fast_reverse_button,rewind",
  "23eb:fast_up_button,arrow_double_up 23ec:fast_down_button,arrow_double_down",
  "23ed:next_track_button,black_right__pointing_double_triangle_with_vertical_bar",
  "23ee:last_track_button,black_left__pointing_double_triangle_with_vertical_bar",
  "23ef:play_or_pause_button,black_right__pointing_triangle_with_double_vertical_bar",
  "23f0:alarm_clock 23f1:stopwatch 23f2:timer_clock",
  "23f3:hourglass_not_done,hourglass_flowing_sand 23f8:pause_button,double_vertical_bar",
  "23f9:stop_button,black_square_for_stop 23fa:record_button,black_circle_for_record",
  "24c2:circled_m,m 25aa:black_small_square 25ab:white_small_square",
  "25b6:play_button,arrow_forward 25c0:reverse_button,arrow_backward 25fb:white_medium_square",
  "25fc:black_medium_square 25fd:white_medium-small_square,white_medium_small_square",
  "25fe:black_medium-small_square,black_medium_small_square 2600:sun,sunny 2601:cloud",
  "2602:umbrella 2603:snowman 2604:comet 260e:telephone,phone 2611:ballot_box_with_check",
  "2614:umbrella_with_rain_drops 2615:hot_beverage,coffee 2618:shamrock 261d:point_up",
  "2620:skull_and_crossbones 2622:radioactive,radioactive_sign 2623:biohazard,biohazard_sign",
  "2626:orthodox_cross 262a:star_and_crescent 262e:peace_symbol 262f:yin_yang",
  "2638:wheel_of_dharma 2639:frowning_face,white_frowning_face 263a:smiling_face,relaxed",
  "2640:female_sign 2642:male_sign 2648:aries 2649:taurus 264a:gemini 264b:cancer 264c:leo",
  "264d:virgo 264e:libra 264f:scorpio,scorpius 2650:sagittarius 2651:capricorn 2652:aquarius",
  "2653:pisces 265f:chess_pawn 2660:spade_suit,spades 2663:club_suit,clubs",
  "2665:heart_suit,hearts 2666:diamond_suit,diamonds 2668:hot_springs,hotsprings",
  "267b:recycling_symbol,recycle 267e:infinity 267f:wheelchair_symbol,wheelchair",
  "2692:hammer_and_pick 2693:anchor 2694:crossed_swords 2695:medical_symbol",
  "2696:balance_scale,scales 2697:alembic 2699:gear 269b:atom_symbol",
  "269c:fleur-de-lis,fleur__de__lis 26a0:warning 26a1:high_voltage,zap 26aa:white_circle",
  "26ab:black_circle 26b0:coffin 26b1:funeral_urn 26bd:soccer_ball,soccer 26be:baseball",
  "26c4:snowman_without_snow 26c5:sun_behind_cloud,partly_sunny",
  "26c8:cloud_with_lightning_and_rain,thunder_cloud_and_rain 26ce:ophiuchus 26cf:pick",
  "26d1:rescue_worker’s_helmet,helmet_with_white_cross 26d3:chains 26d4:no_entry",
  "26e9:shinto_shrine 26ea:church 26f0:mountain 26f1:umbrella_on_ground 26f2:fountain",
  "26f3:flag_in_hole,golf 26f4:ferry 26f5:sailboat,boat 26f7:skier 26f8:ice_skate",
  "26f9:person_with_ball 26fa:tent 26fd:fuel_pump,fuelpump 2702:scissors",
  "2705:white_heavy_check_mark,white_check_mark 2708:airplane 2709:envelope,email 270a:fist",
  "270b:hand 270c:v 270f:pencil2 2712:black_nib 2714:heavy_check_mark",
  "2716:heavy_multiplication_x 271d:latin_cross 2721:star_of_david 2728:sparkles",
  "2733:eight-spoked_asterisk,eight_spoked_asterisk",
  "2734:eight-pointed_star,eight_pointed_black_star 2744:snowflake 2747:sparkle",
  "274c:cross_mark,x 274e:cross_mark_button,negative_squared_cross_mark",
  "2753:question_mark,question 2754:white_question_mark,grey_question",
  "2755:white_exclamation_mark,grey_exclamation",
  "2757:exclamation_mark,exclamation,heavy_exclamation_mark",
  "2763:heavy_heart_exclamation,heavy_heart_exclamation_mark_ornament 2764:red_heart,heart",
  "2795:heavy_plus_sign 2796:heavy_minus_sign 2797:heavy_division_sign",
  "27a1:right_arrow,arrow_right 27b0:curly_loop 27bf:double_curly_loop,loop",
  "2934:right_arrow_curving_up,arrow_heading_up",
  "2935:right_arrow_curving_down,arrow_heading_down 2b05:left_arrow,arrow_left",
  "2b06:up_arrow,arrow_up 2b07:down_arrow,arrow_down 2b1b:black_large_square",
  "2b1c:white_large_square 2b50:white_medium_star,star 2b55:heavy_large_circle,o 3030:wavy_dash",
  "303d:part_alternation_mark 3297:japanese_congratulations_button,congratulations",
  "3299:japanese_secret_button,secret 1f004:mahjong_red_dragon,mahjong 1f0cf:joker,black_joker",
  "1f170:a_button_(blood_type),a 1f171:b_button_(blood_type),b 1f17e:o_button_(blood_type),o2",
  "1f17f:p_button,parking 1f18e:ab_button_(blood_type),ab 1f191:cl_button,cl",
  "1f192:cool_button,cool 1f193:free_button,free 1f194:id_button,id 1f195:new_button,new",
  "1f196:ng_button,ng 1f197:ok_button,ok 1f198:sos_button,sos 1f199:up!_button,up",
  "1f19a:vs_button,vs 1f1e6:regional_indicator_symbol_letter_a,regional_indicator_a",
  "1f1e7:regional_indicator_symbol_letter_b,regional_indicator_b",
  "1f1e8:regional_indicator_symbol_letter_c,regional_indicator_c",
  "1f1e8-1f1e8:cocos_(keeling)_islands,flag_for_cocos__islands",
  "1f1e8-1f1e9:congo_-_kinshasa,flag_for_congo____kinshasa",
  "1f1e8-1f1ec:congo_-_brazzaville,flag_for_congo____brazzaville",
  "1f1e8-1f1ff:czechia,flag_for_czech_republic",
  "1f1e9:regional_indicator_symbol_letter_d,regional_indicator_d",
  "1f1ea:regional_indicator_symbol_letter_e,regional_indicator_e",
  "1f1eb:regional_indicator_symbol_letter_f,regional_indicator_f",
  "1f1ec:regional_indicator_symbol_letter_g,regional_indicator_g",
  "1f1ec-1f1fc:guinea-bissau,flag_for_guinea__bissau",
  "1f1ed:regional_indicator_symbol_letter_h,regional_indicator_h",
  "1f1ed-1f1f0:hong_kong_sar_china,flag_for_hong_kong",
  "1f1ee:regional_indicator_symbol_letter_i,regional_indicator_i",
  "1f1ef:regional_indicator_symbol_letter_j,regional_indicator_j 1f1ef-1f1f5:flag_for_japan",
  "1f1f0:regional_indicator_symbol_letter_k,regional_indicator_k",
  "1f1f1:regional_indicator_symbol_letter_l,regional_indicator_l",
  "1f1f2:regional_indicator_symbol_letter_m,regional_indicator_m",
  "1f1f2-1f1f2:myanmar_(burma),flag_for_myanmar 1f1f2-1f1f4:macau_sar_china,flag_for_macau",
  "1f1f3:regional_indicator_symbol_letter_n,regional_indicator_n",
  "1f1f4:regional_indicator_symbol_letter_o,regional_indicator_o",
  "1f1f5:regional_indicator_symbol_letter_p,regional_indicator_p",
  "1f1f6:regional_indicator_symbol_letter_q,regional_indicator_q",
  "1f1f7:regional_indicator_symbol_letter_r,regional_indicator_r",
  "1f1f8:regional_indicator_symbol_letter_s,regional_indicator_s",
  "1f1f9:regional_indicator_symbol_letter_t,regional_indicator_t",
  "1f1f9-1f1f1:timor-leste,flag_for_timor__leste 1f1f9-1f1f7:flag_for_turkey",
  "1f1fa:regional_indicator_symbol_letter_u,regional_indicator_u 1f1fa-1f1f3:united_nations",
  "1f1fb:regional_indicator_symbol_letter_v,regional_indicator_v",
  "1f1fc:regional_indicator_symbol_letter_w,regional_indicator_w",
  "1f1fd:regional_indicator_symbol_letter_x,regional_indicator_x",
  "1f1fe:regional_indicator_symbol_letter_y,regional_indicator_y",
  "1f1ff:regional_indicator_symbol_letter_z,regional_indicator_z",
  "1f201:japanese_here_button,koko 1f202:japanese_service_charge_button,sa",
  "1f21a:japanese_free_of_charge_button,u7121 1f22f:japanese_reserved_button,u6307",
  "1f232:japanese_prohibited_button,u7981 1f233:japanese_vacancy_button,u7a7a",
  "1f234:japanese_passing_grade_button,u5408 1f235:japanese_no_vacancy_button,u6e80",
  "1f236:japanese_not_free_of_charge_button,u6709 1f237:japanese_monthly_amount_button,u6708",
  "1f238:japanese_application_button,u7533 1f239:japanese_discount_button,u5272",
  "1f23a:japanese_open_for_business_button,u55b6",
  "1f250:japanese_bargain_button,ideograph_advantage 1f251:japanese_acceptable_button,accept"]

def nature : List String := [
  "1f300:cyclone 1f301:foggy 1f302:closed_umbrella 1f303:night_with_stars",
  "1f304:sunrise_over_mountains 1f305:sunrise 1f306:cityscape_at_dusk,city_sunset",
  "1f307:sunset,city_sunrise 1f308:rainbow 1f309:bridge_at_night 1f30a:water_wave,ocean",
  "1f30b:volcano 1f30c:milky_way 1f30d:globe_showing_europe-africa,earth_africa",
  "1f30e:globe_showing_americas,earth_americas 1f30f:globe_showing_asia-australia,earth_asia",
  "1f310:globe_with_meridians 1f311:new_moon 1f312:waxing_crescent_moon",
  "1f313:first_quarter_moon 1f314:waxing_gibbous_moon,moon 1f315:full_moon",
  "1f316:waning_gibbous_moon 1f317:last_quarter_moon 1f318:waning_crescent_moon",
  "1f319:crescent_moon 1f31a:new_moon_face,new_moon_with_face",
  "1f31b:first_quarter_moon_face,first_quarter_moon_with_face",
  "1f31c:last_quarter_moon_face,last_quarter_moon_with_face",
  "1f31d:full_moon_face,full_moon_with_face 1f31e:sun_with_face 1f31f:glowing_star,star2",
  "1f320:shooting_star,stars 1f321:thermometer",
  "1f324:sun_behind_small_cloud,white_sun_with_small_cloud",
  "1f325:sun_behind_large_cloud,white_sun_behind_cloud",
  "1f326:sun_behind_rain_cloud,white_sun_behind_cloud_with_rain 1f327:cloud_with_rain",
  "1f328:cloud_with_snow 1f329:cloud_with_lightning 1f32a:tornado,cloud_with_tornado 1f32b:fog",
  "1f32c:wind_face,wind_blowing_face 1f32d:hot_dog 1f32e:taco 1f32f:burrito 1f330:chestnut",
  "1f331:seedling 1f332:evergreen_tree 1f333:deciduous_tree 1f334:palm_tree 1f335:cactus",
  "1f336:hot_pepper 1f337:tulip 1f338:cherry_blossom 1f339:rose 1f33a:hibiscus 1f33b:sunflower",
  "1f33c:blossom 1f33d:ear_of_corn,corn 1f33e:sheaf_of_rice,ear_of_rice 1f33f:herb",
  "1f340:four_leaf_clover 1f341:maple_leaf 1f342:fallen_leaf",
  "1f343:leaf_fluttering_in_wind,leaves 1f344:mushroom 1f345:tomato 1f346:eggplant 1f347:grapes",
  "1f348:melon 1f349:watermelon 1f34a:tangerine 1f34b:lemon 1f34c:banana 1f34d:pineapple",
  "1f34e:red_apple,apple 1f34f:green_apple 1f350:pear 1f351:peach 1f352:cherries",
  "1f353:strawberry 1f354:hamburger 1f355:pizza 1f356:meat_on_bone 1f357:poultry_leg",
  "1f358:rice_cracker 1f359:rice_ball 1f35a:cooked_rice,rice 1f35b:curry_rice,curry",
  "1f35c:steaming_bowl,ramen 1f35d:spaghetti 1f35e:bread 1f35f:french_fries,fries",
  "1f360:roasted_sweet_potato,sweet_potato 1f361:dango 1f362:oden 1f363:sushi",
  "1f364:fried_shrimp 1f365:fish_cake_with_swirl,fish_cake 1f366:soft_ice_cream,icecream",
  "1f367:shaved_ice 1f368:ice_cream 1f369:doughnut 1f36a:cookie 1f36b:chocolate_bar 1f36c:candy",
  "1f36d:lollipop 1f36e:custard 1f36f:honey_pot 1f370:shortcake,cake 1f371:bento_box,bento",
  "1f372:pot_of_food,stew 1f373:cooking,egg 1f374:fork_and_knife",
  "1f375:teacup_without_handle,tea 1f376:sake 1f377:wine_glass 1f378:cocktail_glass,cocktail",
  "1f379:tropical_drink 1f37a:beer_mug,beer 1f37b:clinking_beer_mugs,beers 1f37c:baby_bottle",
  "1f37d:fork_and_knife_with_plate 1f37e:bottle_with_popping_cork 1f37f:popcorn 1f380:ribbon",
  "1f381:wrapped_gift,gift 1f382:birthday_cake,birthday 1f383:jack-o-lantern,jack_o_lantern",
  "1f384:christmas_tree 1f385:santa 1f386:fireworks 1f387:sparkler 1f388:balloon",
  "1f389:party_popper,tada 1f38a:confetti_ball 1f38b:tanabata_tree 1f38c:crossed_flags",
  "1f38d:pine_decoration,bamboo 1f38e:japanese_dolls,dolls 1f38f:carp_streamer,flags",
  "1f390:wind_chime 1f391:moon_viewing_ceremony,rice_scene 1f392:school_backpack,school_satchel",
  "1f393:graduation_cap,mortar_board 1f396:military_medal 1f397:reminder_ribbon",
  "1f399:studio_microphone 1f39a:level_slider 1f39b:control_knobs 1f39e:film_frames",
  "1f39f:admission_tickets 1f3a0:carousel_horse 1f3a1:ferris_wheel 1f3a2:roller_coaster",
  "1f3a3:fishing_pole,fishing_pole_and_fish 1f3a4:microphone 1f3a5:movie_camera 1f3a6:cinema",
  "1f3a7:headphone,headphones 1f3a8:artist_palette,art 1f3a9:top_hat,tophat 1f3aa:circus_tent",
  "1f3ab:ticket 1f3ac:clapper_board,clapper 1f3ad:performing_arts 1f3ae:video_game",
  "1f3af:direct_hit,dart 1f3b0:slot_machine 1f3b1:pool_8_ball,8ball 1f3b2:game_die",
  "1f3b3:bowling 1f3b4:flower_playing_cards 1f3b5:musical_note 1f3b6:musical_notes,notes",
  "1f3b7:saxophone 1f3b8:guitar 1f3b9:musical_keyboard 1f3ba:trumpet 1f3bb:violin",
  "1f3bc:musical_score 1f3bd:running_shirt,running_shirt_with_sash 1f3be:tennis 1f3bf:skis,ski",
  "1f3c0:basketball 1f3c1:chequered_flag,checkered_flag 1f3c3:runner,running 1f3c4:surfer",
  "1f3c5:sports_medal 1f3c6:trophy 1f3c8:american_football,football 1f3c9:rugby_football",
  "1f3ca:swimmer 1f3cb:weight_lifter 1f3cc:golfer 1f3cd:motorcycle,racing_motorcycle",
  "1f3ce:racing_car 1f3cf:cricket_game,cricket_bat_and_ball 1f3d0:volleyball",
  "1f3d1:field_hockey,field_hockey_stick_and_ball 1f3d2:ice_hockey,ice_hockey_stick_and_puck",
  "1f3d3:ping_pong,table_tennis_paddle_and_ball 1f3d4:snow-capped_mountain,snow_capped_mountain",
  "1f3d5:camping 1f3d6:beach_with_umbrella 1f3d7:building_construction",
  "1f3d8:houses,house_buildings 1f3d9:cityscape 1f3da:derelict_house,derelict_house_building",
  "1f3db:classical_building 1f3dc:desert 1f3dd:desert_island 1f3de:national_park 1f3df:stadium",
  "1f3e0:house 1f3e1:house_with_garden 1f3e2:office_building,office",
  "1f3e3:japanese_post_office,post_office 1f3e4:european_post_office 1f3e5:hospital 1f3e6:bank",
  "1f3e7:atm_sign,atm 1f3e8:hotel 1f3e9:love_hotel 1f3ea:convenience_store 1f3eb:school",
  "1f3ec:department_store 1f3ed:factory 1f3ee:red_paper_lantern,izakaya_lantern,lantern",
  "1f3ef:japanese_castle 1f3f0:castle,european_castle 1f3f3:white_flag,waving_white_flag",
  "1f3f3-fe0f-200d-1f308:rainbow_flag 1f3f4:black_flag,waving_black_flag",
  "1f3f4-200d-2620-fe0f:pirate_flag 1f3f4-e0067-e0062-e0065-e006e-e0067-e007f:england",
  "1f3f4-e0067-e0062-e0073-e0063-e0074-e007f:scotland",
  "1f3f4-e0067-e0062-e0077-e006c-e0073-e007f:wales 1f3f5:rosette 1f3f7:label",
  "1f3f8:badminton,badminton_racquet_and_shuttlecock 1f3f9:bow_and_arrow 1f3fa:amphora",
  "1f3fb:light_skin_tone,emoji_modifier_fitzpatrick_type__1__2",
  "1f3fc:medium_light_skin_tone,emoji_modifier_fitzpatrick_type__3",
  "1f3fd:medium_skin_tone,emoji_modifier_fitzpatrick_type__4",
  "1f3fe:medium_dark_skin_tone,emoji_modifier_fitzpatrick_type__5",
  "1f3ff:dark_skin_tone,emoji_modifier_fitzpatrick_type__6"]

def creatures : List String := [
  "1f400:rat 1f401:mouse2 1f402:ox 1f403:water_buffalo 1f404:cow2 1f405:tiger2 1f406:leopard",
  "1f407:rabbit2 1f408:cat2 1f409:dragon 1f40a:crocodile 1f40b:whale2 1f40c:snail 1f40d:snake",
  "1f40e:racehorse 1f40f:ram 1f410:goat 1f411:ewe,sheep 1f412:monkey 1f413:rooster",
  "1f414:chicken 1f415:dog2 1f415-200d-1f9ba:service_dog 1f416:pig2 1f417:boar 1f418:elephant",
  "1f419:octopus 1f41a:spiral_shell,shell 1f41b:bug 1f41c:ant 1f41d:honeybee,bee",
  "1f41e:lady_beetle,beetle 1f41f:fish 1f420:tropical_fish 1f421:blowfish 1f422:turtle",
  "1f423:hatching_chick 1f424:baby_chick 1f425:front-facing_baby_chick,hatched_chick 1f426:bird",
  "1f427:penguin 1f428:koala 1f429:poodle 1f42a:dromedary_camel 1f42b:camel,two-hump_camel",
  "1f42c:dolphin,flipper 1f42d:mouse,mouse_face 1f42e:cow,cow_face 1f42f:tiger,tiger_face",
  "1f430:rabbit,rabbit_face 1f431:cat,cat_face 1f432:dragon_face 1f433:spouting_whale,whale",
  "1f434:horse,horse_face 1f435:monkey_face 1f436:dog,dog_face 1f437:pig,pig_face",
  "1f438:frog_face,frog 1f439:hamster_face,hamster 1f43a:wolf_face,wolf 1f43b:bear_face,bear",
  "1f43c:panda_face 1f43d:pig_nose 1f43e:paw_prints,feet 1f43f:chipmunk 1f440:eyes 1f441:eye",
  "1f441-fe0f-200d-1f5e8-fe0f:eye_in_speech_bubble 1f444:mouth,lips 1f445:tongue",
  "1f446:point_up_2 1f447:point_down 1f448:point_left 1f449:point_right 1f44a:facepunch,punch",
  "1f44b:wave 1f44d:+1,thumbsup 1f44e:__1,-1,thumbsdown 1f44f:clap 1f451:crown",
  "1f452:woman’s_hat,womans_hat 1f453:glasses,eyeglasses 1f454:necktie",
  "1f455:t-shirt,shirt,tshirt 1f456:jeans 1f457:dress 1f458:kimono 1f459:bikini",
  "1f45a:woman’s_clothes,womans_clothes 1f45b:purse 1f45c:handbag 1f45d:clutch_bag,pouch",
  "1f45e:man’s_shoe,mans_shoe,shoe 1f45f:running_shoe,athletic_shoe",
  "1f460:high-heeled_shoe,high_heel 1f461:woman’s_sandal,sandal 1f462:woman’s_boot,boot",
  "1f463:footprints 1f464:bust_in_silhouette 1f465:busts_in_silhouette",
  "1f468-200d-2764-fe0f-200d-1f468:couple_with_heart_man_man",
  "1f468-200d-2764-fe0f-200d-1f48b-200d-1f468:kiss_man_man 1f468-200d-1f466:family_man_boy",
  "1f468-200d-1f466-200d-1f466:family_man_boy_boy 1f468-200d-1f467:family_man_girl",
  "1f468-200d-1f467-200d-1f466:family_man_girl_boy",
  "1f468-200d-1f467-200d-1f467:family_man_girl_girl",
  "1f468-200d-1f468-200d-1f466:family_man_man_boy",
  "1f468-200d-1f468-200d-1f466-200d-1f466:family_man_man_boy_boy",
  "1f468-200d-1f468-200d-1f467:family_man_man_girl",
  "1f468-200d-1f468-200d-1f467-200d-1f466:family_man_man_girl_boy",
  "1f468-200d-1f468-200d-1f467-200d-1f467:family_man_man_girl_girl",
  "1f468-200d-1f469-200d-1f466:family_man_woman_boy",
  "1f468-200d-1f469-200d-1f466-200d-1f466:family_man_woman_boy_boy",
  "1f468-200d-1f469-200d-1f467:family_man_woman_girl",
  "1f468-200d-1f469-200d-1f467-200d-1f466:family_man_woman_girl_boy",
  "1f468-200d-1f469-200d-1f467-200d-1f467:family_man_woman_girl_girl",
  "1f468-200d-1f9af:man_with_probing_cane 1f468-200d-1f9b0:red-haired_man",
  "1f468-200d-1f9b1:curly-haired_man 1f468-200d-1f9b2:bald_man",
  "1f468-200d-1f9b3:white-haired_man 1f468-200d-1f9bc:man_in_motorized_wheelchair",
  "1f468-200d-1f9bd:man_in_manual_wheelchair",
  "1f469-200d-2764-fe0f-200d-1f468:couple_with_heart_woman_man",
  "1f469-200d-2764-fe0f-200d-1f469:couple_with_heart_woman_woman",
  "1f469-200d-2764-fe0f-200d-1f48b-200d-1f468:kiss_woman_man",
  "1f469-200d-2764-fe0f-200d-1f48b-200d-1f469:kiss_woman_woman",
  "1f469-200d-1f466:family_woman_boy 1f469-200d-1f466-200d-1f466:family_woman_boy_boy",
  "1f469-200d-1f467:family_woman_girl 1f469-200d-1f467-200d-1f466:family_woman_girl_boy",
  "1f469-200d-1f467-200d-1f467:family_woman_girl_girl",
  "1f469-200d-1f469-200d-1f466:family_woman_woman_boy",
  "1f469-200d-1f469-200d-1f466-200d-1f466:family_woman_woman_boy_boy",
  "1f469-200d-1f469-200d-1f467:family_woman_woman_girl",
  "1f469-200d-1f469-200d-1f467-200d-1f466:family_woman_woman_girl_boy",
  "1f469-200d-1f469-200d-1f467-200d-1f467:family_woman_woman_girl_girl",
  "1f469-200d-1f9af:woman_with_probing_cane 1f469-200d-1f9b0:red-haired_woman",
  "1f469-200d-1f9b1:curly-haired_woman 1f469-200d-1f9b2:bald_woman",
  "1f469-200d-1f9b3:white-haired_woman 1f469-200d-1f9bc:woman_in_motorized_wheelchair",
  "1f469-200d-1f9bd:woman_in_manual_wheelchair 1f46a:family",
  "1f46b:man_and_woman_holding_hands,couple 1f46c:two_men_holding_hands",
  "1f46d:two_women_holding_hands 1f46e:cop 1f46f:people_with_bunny_ears,dancers",
  "1f46f-200d-2640-fe0f:women_with_bunny_ears 1f46f-200d-2642-fe0f:men_with_bunny_ears",
  "1f471:person_with_blond_hair 1f472:man_with_gua_pi_mao 1f473:man_with_turban 1f474:older_man",
  "1f475:older_woman 1f479:ogre,japanese_ogre 1f47a:goblin,japanese_goblin 1f47b:ghost",
  "1f47c:angel 1f47d:alien 1f47e:alien_monster,space_invader 1f47f:angry_face_with_horns,imp",
  "1f480:skull 1f481:information_desk_person 1f482:guardsman 1f483:dancer 1f484:lipstick",
  "1f485:nail_care 1f486:massage 1f487:haircut 1f488:barber_pole,barber 1f489:syringe",
  "1f48a:pill 1f48b:kiss,kiss_mark 1f48c:love_letter 1f48d:ring 1f48e:gem_stone,gem",
  "1f48f:couplekiss 1f490:bouquet 1f491:couple_with_heart 1f492:wedding",
  "1f493:beating_heart,heartbeat 1f494:broken_heart 1f495:two_hearts 1f496:sparkling_heart",
  "1f497:growing_heart,heartpulse 1f498:heart_with_arrow,cupid 1f499:blue_heart",
  "1f49a:green_heart 1f49b:yellow_heart 1f49c:purple_heart 1f49d:heart_with_ribbon,gift_heart",
  "1f49e:revolving_hearts 1f49f:heart_decoration",
  "1f4a0:diamond_with_a_dot,diamond_shape_with_a_dot_inside 1f4a1:light_bulb,bulb",
  "1f4a2:anger_symbol,anger 1f4a3:bomb 1f4a4:zzz 1f4a5:collision,boom",
  "1f4a6:sweat_droplets,sweat_drops 1f4a7:droplet 1f4a8:dashing_away,dash",
  "1f4a9:pile_of_poo,hankey,poop,shit 1f4aa:muscle 1f4ab:dizzy 1f4ac:speech_balloon",
  "1f4ad:thought_balloon 1f4ae:white_flower 1f4af:hundred_points,100 1f4b0:money_bag,moneybag",
  "1f4b1:currency_exchange 1f4b2:heavy_dollar_sign 1f4b3:credit_card 1f4b4:yen_banknote,yen",
  "1f4b5:dollar_banknote,dollar 1f4b6:euro_banknote,euro 1f4b7:pound_banknote,pound",
  "1f4b8:money_with_wings 1f4b9:chart_increasing_with_yen,chart 1f4ba:seat",
  "1f4bb:laptop_computer,computer 1f4bc:briefcase 1f4bd:computer_disk,minidisc",
  "1f4be:floppy_disk 1f4bf:optical_disk,cd 1f4c0:dvd 1f4c1:file_folder 1f4c2:open_file_folder",
  "1f4c3:page_with_curl 1f4c4:page_facing_up 1f4c5:date 1f4c6:calendar,tear-off_calendar",
  "1f4c7:card_index 1f4c8:chart_increasing,chart_with_upwards_trend",
  "1f4c9:chart_decreasing,chart_with_downwards_trend 1f4ca:bar_chart 1f4cb:clipboard",
  "1f4cc:pushpin 1f4cd:round_pushpin 1f4ce:paperclip 1f4cf:straight_ruler",
  "1f4d0:triangular_ruler 1f4d1:bookmark_tabs 1f4d2:ledger 1f4d3:notebook",
  "1f4d4:notebook_with_decorative_cover 1f4d5:closed_book 1f4d6:open_book,book 1f4d7:green_book",
  "1f4d8:blue_book 1f4d9:orange_book 1f4da:books 1f4db:name_badge 1f4dc:scroll",
  "1f4dd:memo,pencil 1f4de:telephone_receiver 1f4df:pager 1f4e0:fax_machine,fax",
  "1f4e1:satellite,satellite_antenna 1f4e2:loudspeaker 1f4e3:megaphone,mega 1f4e4:outbox_tray",
  "1f4e5:inbox_tray 1f4e6:package 1f4e7:e-mail,e__mail 1f4e8:incoming_envelope",
  "1f4e9:envelope_with_arrow 1f4ea:closed_mailbox_with_lowered_flag,mailbox_closed",
  "1f4eb:closed_mailbox_with_raised_flag,mailbox",
  "1f4ec:open_mailbox_with_raised_flag,mailbox_with_mail",
  "1f4ed:open_mailbox_with_lowered_flag,mailbox_with_no_mail 1f4ee:postbox 1f4ef:postal_horn",
  "1f4f0:newspaper 1f4f1:mobile_phone,iphone 1f4f2:mobile_phone_with_arrow,calling",
  "1f4f3:vibration_mode 1f4f4:mobile_phone_off 1f4f5:no_mobile_phones",
  "1f4f6:antenna_bars,signal_strength 1f4f7:camera 1f4f8:camera_with_flash 1f4f9:video_camera",
  "1f4fa:television,tv 1f4fb:radio 1f4fc:videocassette,vhs 1f4fd:film_projector",
  "1f4ff:prayer_beads"]

def signs : List String := [
  "1f500:shuffle_tracks_button,twisted_rightwards_arrows 1f501:repeat_button,repeat",
  "1f502:repeat_single_button,repeat_one 1f503:clockwise_vertical_arrows,arrows_clockwise",
  "1f504:counterclockwise_arrows_button,arrows_counterclockwise 1f505:dim_button,low_brightness",
  "1f506:bright_button,high_brightness 1f507:muted_speaker,mute",
  "1f508:speaker_low_volume,speaker 1f509:speaker_medium_volume,sound",
  "1f50a:speaker_high_volume,loud_sound 1f50b:battery 1f50c:electric_plug",
  "1f50d:magnifying_glass_tilted_left,mag 1f50e:magnifying_glass_tilted_right,mag_right",
  "1f50f:locked_with_pen,lock_with_ink_pen 1f510:locked_with_key,closed_lock_with_key 1f511:key",
  "1f512:locked,lock 1f513:unlocked,unlock 1f514:bell 1f515:bell_with_slash,no_bell",
  "1f516:bookmark 1f517:link 1f518:radio_button 1f519:back_arrow,back 1f51a:end_arrow,end",
  "1f51b:on!_arrow,on 1f51c:soon_arrow,soon 1f51d:top_arrow,top",
  "1f51e:no_one_under_eighteen,underage 1f51f:keycap_10,ten",
  "1f520:input_latin_uppercase,capital_abcd 1f521:input_latin_lowercase,abcd",
  "1f522:input_numbers,1234 1f523:input_symbols,symbols 1f524:input_latin_letters,abc",
  "1f525:fire 1f526:flashlight 1f527:wrench 1f528:hammer 1f529:nut_and_bolt",
  "1f52a:kitchen_knife,hocho,knife 1f52b:pistol,gun 1f52c:microscope 1f52d:telescope",
  "1f52e:crystal_ball 1f52f:dotted_six-pointed_star,six_pointed_star",
  "1f530:japanese_symbol_for_beginner,beginner 1f531:trident_emblem,trident",
  "1f532:black_square_button 1f533:white_square_button 1f534:red_circle",
  "1f535:blue_circle,large_blue_circle 1f536:large_orange_diamond 1f537:large_blue_diamond",
  "1f538:small_orange_diamond 1f539:small_blue_diamond",
  "1f53a:red_triangle_pointed_up,small_red_triangle",
  "1f53b:red_triangle_pointed_down,small_red_triangle_down 1f53c:upwards_button,arrow_up_small",
  "1f53d:downwards_button,arrow_down_small 1f549:om,om_symbol 1f54a:dove,dove_of_peace",
  "1f54b:kaaba 1f54c:mosque 1f54d:synagogue 1f54e:menorah,menorah_with_nine_branches",
  "1f550:one_o’clock,clock1 1f551:two_o’clock,clock2 1f552:three_o’clock,clock3",
  "1f553:four_o’clock,clock4 1f554:five_o’clock,clock5 1f555:six_o’clock,clock6",
  "1f556:seven_o’clock,clock7 1f557:eight_o’clock,clock8 1f558:nine_o’clock,clock9",
  "1f559:ten_o’clock,clock10 1f55a:eleven_o’clock,clock11 1f55b:twelve_o’clock,clock12",
  "1f55c:one-thirty,clock130 1f55d:two-thirty,clock230 1f55e:three-thirty,clock330",
  "1f55f:four-thirty,clock430 1f560:five-thirty,clock530 1f561:six-thirty,clock630",
  "1f562:seven-thirty,clock730 1f563:eight-thirty,clock830 1f564:nine-thirty,clock930",
  "1f565:ten-thirty,clock1030 1f566:eleven-thirty,clock1130 1f567:twelve-thirty,clock1230",
  "1f56f:candle 1f570:mantelpiece_clock 1f573:hole 1f574:man_in_business_suit_levitating",
  "1f575:sleuth_or_spy 1f576:dark_sunglasses 1f577:spider 1f578:spider_web 1f579:joystick",
  "1f587:linked_paperclips 1f58a:pen,lower_left_ballpoint_pen",
  "1f58b:fountain_pen,lower_left_fountain_pen 1f58c:paintbrush,lower_left_paintbrush",
  "1f58d:crayon,lower_left_crayon 1f590:raised_hand_with_fingers_splayed",
  "1f595:reversed_hand_with_middle_finger_extended",
  "1f596:raised_hand_with_part_between_middle_and_ring_fingers 1f5a4:black_heart",
  "1f5a5:desktop_computer 1f5a8:printer 1f5b1:computer_mouse,three_button_mouse 1f5b2:trackball",
  "1f5bc:framed_picture,frame_with_picture 1f5c2:card_index_dividers 1f5c3:card_file_box",
  "1f5c4:file_cabinet 1f5d1:wastebasket 1f5d2:spiral_notepad,spiral_note_pad",
  "1f5d3:spiral_calendar,spiral_calendar_pad 1f5dc:clamp,compression 1f5dd:old_key",
  "1f5de:rolled-up_newspaper,rolled__up_newspaper 1f5e1:dagger,dagger_knife",
  "1f5e3:speaking_head,speaking_head_in_silhouette 1f5e8:left_speech_bubble",
  "1f5ef:right_anger_bubble 1f5f3:ballot_box_with_ballot 1f5fa:world_map 1f5fb:mount_fuji",
  "1f5fc:tokyo_tower 1f5fd:statue_of_liberty 1f5fe:japan,map_of_japan 1f5ff:moai,moyai"]

def faces : List String := [
  "1f600:grinning_face,grinning 1f601:beaming_face_with_smiling_eyes,grin",
  "1f602:face_with_tears_of_joy,joy 1f603:grinning_face_with_big_eyes,smiley",
  "1f604:grinning_face_with_smiling_eyes,smile 1f605:grinning_face_with_sweat,sweat_smile",
  "1f606:grinning_squinting_face,laughing,satisfied 1f607:smiling_face_with_halo,innocent",
  "1f608:smiling_face_with_horns,smiling_imp 1f609:winking_face,wink",
  "1f60a:smiling_face_with_smiling_eyes,blush 1f60b:face_savoring_food,yum",
  "1f60c:relieved_face,relieved 1f60d:smiling_face_with_heart-eyes,heart_eyes",
  "1f60e:smiling_face_with_sunglasses,sunglasses 1f60f:smirking_face,smirk 1f610:neutral_face",
  "1f611:expressionless_face,expressionless 1f612:unamused_face,unamused",
  "1f613:downcast_face_with_sweat,sweat 1f614:pensive_face,pensive 1f615:confused_face,confused",
  "1f616:confounded_face,confounded 1f617:kissing_face,kissing",
  "1f618:face_blowing_a_kiss,kissing_heart",
  "1f619:kissing_face_with_smiling_eyes,kissing_smiling_eyes",
  "1f61a:kissing_face_with_closed_eyes,kissing_closed_eyes",
  "1f61b:face_with_tongue,stuck_out_tongue",
  "1f61c:winking_face_with_tongue,stuck_out_tongue_winking_eye",
  "1f61d:squinting_face_with_tongue,stuck_out_tongue_closed_eyes",
  "1f61e:disappointed_face,disappointed 1f61f:worried_face,worried 1f620:angry_face,angry",
  "1f621:pouting_face,rage 1f622:crying_face,cry 1f623:persevering_face,persevere",
  "1f624:face_with_steam_from_nose,triumph 1f625:sad_but_relieved_face,disappointed_relieved",
  "1f626:frowning_face_with_open_mouth,frowning 1f627:anguished_face,anguished",
  "1f628:fearful_face,fearful 1f629:weary_face,weary 1f62a:sleepy_face,sleepy 1f62b:tired_face",
  "1f62c:grimacing_face,grimacing 1f62d:loudly_crying_face,sob",
  "1f62e:face_with_open_mouth,open_mouth 1f62f:hushed_face,hushed",
  "1f630:anxious_face_with_sweat,cold_sweat 1f631:face_screaming_in_fear,scream",
  "1f632:astonished_face,astonished 1f633:flushed_face,flushed 1f634:sleeping_face,sleeping",
  "1f635:dizzy_face 1f636:face_without_mouth,no_mouth 1f637:face_with_medical_mask,mask",
  "1f638:grinning_cat_face_with_smiling_eyes,smile_cat 1f639:cat_face_with_tears_of_joy,joy_cat",
  "1f63a:grinning_cat_face,smiley_cat 1f63b:smiling_cat_face_with_heart-eyes,heart_eyes_cat",
  "1f63c:cat_face_with_wry_smile,smirk_cat 1f63d:kissing_cat_face,kissing_cat",
  "1f63e:pouting_cat_face,pouting_cat 1f63f:crying_cat_face 1f640:weary_cat_face,scream_cat",
  "1f641:slightly_frowning_face 1f642:slightly_smiling_face",
  "1f643:upside-down_face,upside__down_face 1f644:face_with_rolling_eyes 1f645:no_good",
  "1f646:ok_woman 1f647:bow 1f648:see-no-evil_monkey,see_no_evil",
  "1f649:hear-no-evil_monkey,hear_no_evil 1f64a:speak-no-evil_monkey,speak_no_evil",
  "1f64b:raising_hand 1f64c:raised_hands 1f64e:person_with_pouting_face 1f64f:pray"]

def transport : List String := [
  "1f680:rocket 1f681:helicopter 1f682:locomotive,steam_locomotive 1f683:railway_car",
  "1f684:high-speed_train,bullettrain_side 1f685:bullet_train,bullettrain_front 1f686:train2",
  "1f687:metro 1f688:light_rail 1f689:station 1f68a:tram 1f68b:train,tram_car 1f68c:bus",
  "1f68d:oncoming_bus 1f68e:trolleybus 1f68f:bus_stop,busstop 1f690:minibus 1f691:ambulance",
  "1f692:fire_engine 1f693:police_car 1f694:oncoming_police_car 1f695:taxi 1f696:oncoming_taxi",
  "1f697:automobile,car,red_car 1f698:oncoming_automobile 1f699:sport_utility_vehicle,blue_car",
  "1f69a:delivery_truck,truck 1f69b:articulated_lorry 1f69c:tractor 1f69d:monorail",
  "1f69e:mountain_railway 1f69f:suspension_railway 1f6a0:mountain_cableway 1f6a1:aerial_tramway",
  "1f6a2:ship 1f6a3:rowboat 1f6a4:speedboat 1f6a5:horizontal_traffic_light,traffic_light",
  "1f6a6:vertical_traffic_light 1f6a7:construction 1f6a8:police_car_light,rotating_light",
  "1f6a9:triangular_flag,triangular_flag_on_post 1f6aa:door 1f6ab:prohibited,no_entry_sign",
  "1f6ac:cigarette,smoking 1f6ad:no_smoking 1f6ae:litter_in_bin_sign,put_litter_in_its_place",
  "1f6af:no_littering,do_not_litter 1f6b0:potable_water",
  "1f6b1:non-potable_water,non__potable_water 1f6b2:bicycle,bike 1f6b3:no_bicycles",
  "1f6b4:bicyclist 1f6b5:mountain_bicyclist 1f6b6:walking 1f6b7:no_pedestrians",
  "1f6b8:children_crossing 1f6b9:men’s_room,mens 1f6ba:women’s_room,womens 1f6bb:restroom",
  "1f6bc:baby_symbol 1f6bd:toilet 1f6be:water_closet,wc 1f6bf:shower 1f6c0:bath 1f6c1:bathtub",
  "1f6c2:passport_control 1f6c3:customs 1f6c4:baggage_claim 1f6c5:left_luggage",
  "1f6cb:couch_and_lamp 1f6cc:sleeping_accommodation 1f6cd:shopping_bags 1f6ce:bellhop_bell",
  "1f6cf:bed 1f6d0:place_of_worship 1f6d1:stop_sign 1f6d2:shopping_cart 1f6d5:hindu_temple",
  "1f6e0:hammer_and_wrench 1f6e1:shield 1f6e2:oil_drum 1f6e3:motorway 1f6e4:railway_track",
  "1f6e5:motor_boat 1f6e9:small_airplane 1f6eb:airplane_departure",
  "1f6ec:airplane_arrival,airplane_arriving 1f6f3:passenger_ship 1f6f4:kick_scooter",
  "1f6f5:motor_scooter 1f6f6:canoe 1f6f7:sled 1f6f8:flying_saucer 1f6f9:skateboard",
  "1f6fa:auto_rickshaw 1f7e0:orange_circle 1f7e1:yellow_circle 1f7e2:green_circle",
  "1f7e3:purple_circle 1f7e4:brown_circle 1f7e5:red_square 1f7e6:blue_square",
  "1f7e7:orange_square 1f7e8:yellow_square 1f7e9:green_square 1f7ea:purple_square",
  "1f7eb:brown_square"]

def supplement : List String := [
  "1f90d:white_heart 1f90e:brown_heart 1f90f:pinching_hand",
  "1f910:zipper-mouth_face,zipper__mouth_face 1f911:money-mouth_face,money__mouth_face",
  "1f912:face_with_thermometer 1f913:nerd_face 1f914:thinking_face",
  "1f915:face_with_head-bandage,face_with_head__bandage 1f916:robot_face,robot",
  "1f917:hugging_face 1f91d:handshake 1f920:cowboy_hat_face 1f921:clown_face",
  "1f922:nauseated_face 1f923:rolling_on_the_floor_laughing 1f924:drooling_face",
  "1f925:lying_face 1f927:sneezing_face 1f928:face_with_raised_eyebrow 1f929:star-struck",
  "1f92a:zany_face 1f92b:shushing_face 1f92c:face_with_symbols_on_mouth",
  "1f92d:face_with_hand_over_mouth 1f92e:face_vomiting 1f92f:exploding_head",
  "1f93a:person_fencing 1f93c:people_wrestling 1f93c-200d-2640-fe0f:women_wrestling",
  "1f93c-200d-2642-fe0f:men_wrestling 1f93f:diving_mask 1f940:wilted_flower 1f941:drum",
  "1f942:clinking_glasses 1f943:tumbler_glass 1f944:spoon 1f945:goal_net 1f947:1st_place_medal",
  "1f948:2nd_place_medal 1f949:3rd_place_medal 1f94a:boxing_glove 1f94b:martial_arts_uniform",
  "1f94c:curling_stone 1f94d:lacrosse 1f94e:softball 1f94f:flying_disc 1f950:croissant",
  "1f951:avocado 1f952:cucumber 1f953:bacon 1f954:potato 1f955:carrot 1f956:baguette_bread",
  "1f957:green_salad 1f958:shallow_pan_of_food 1f959:stuffed_flatbread 1f95b:glass_of_milk",
  "1f95c:peanuts 1f95d:kiwi_fruit 1f95e:pancakes 1f95f:dumpling 1f960:fortune_cookie",
  "1f961:takeout_box 1f962:chopsticks 1f963:bowl_with_spoon 1f964:cup_with_straw 1f965:coconut",
  "1f966:broccoli 1f967:pie 1f968:pretzel 1f969:cut_of_meat 1f96a:sandwich 1f96b:canned_food",
  "1f96c:leafy_green 1f96d:mango 1f96e:moon_cake 1f96f:bagel 1f970:smiling_face_with_3_hearts",
  "1f971:yawning_face 1f973:partying_face 1f974:woozy_face 1f975:hot_face 1f976:cold_face",
  "1f97a:pleading_face 1f97b:sari 1f97c:lab_coat 1f97d:goggles 1f97e:hiking_boot",
  "1f97f:flat_shoe 1f980:crab 1f981:lion_face 1f982:scorpion 1f983:turkey 1f984:unicorn_face",
  "1f985:eagle 1f986:duck 1f987:bat 1f988:shark 1f989:owl 1f98a:fox_face 1f98b:butterfly",
  "1f98c:deer 1f98d:gorilla 1f98e:lizard 1f98f:rhinoceros 1f990:shrimp 1f991:squid",
  "1f992:giraffe 1f993:zebra 1f994:hedgehog 1f995:sauropod 1f996:t-rex 1f997:cricket",
  "1f998:kangaroo 1f999:llama 1f99a:peacock 1f99b:hippopotamus 1f99c:parrot 1f99d:raccoon",
  "1f99e:lobster 1f99f:mosquito 1f9a0:microbe 1f9a1:badger 1f9a2:swan 1f9a5:sloth 1f9a6:otter",
  "1f9a7:orangutan 1f9a8:skunk 1f9a9:flamingo 1f9aa:oyster 1f9ae:guide_dog 1f9af:probing_cane",
  "1f9b0:red_hair 1f9b1:curly_hair 1f9b2:bald 1f9b3:white_hair 1f9b4:bone 1f9b5:leg 1f9b6:foot",
  "1f9b7:tooth 1f9b8:superhero 1f9b9:supervillain 1f9ba:safety_vest 1f9bb:ear_with_hearing_aid",
  "1f9bc:motorized_wheelchair 1f9bd:manual_wheelchair 1f9be:mechanical_arm 1f9bf:mechanical_leg",
  "1f9c0:cheese_wedge 1f9c1:cupcake 1f9c2:salt 1f9c3:beverage_box 1f9c4:garlic 1f9c5:onion",
  "1f9c6:falafel 1f9c7:waffle 1f9c8:butter 1f9c9:mate 1f9ca:ice 1f9cd:person_standing",
  "1f9ce:person_kneeling 1f9cf:deaf_person 1f9d0:face_with_monocle",
  "1f9d1-200d-1f91d-200d-1f9d1:people_holding_hands 1f9de:genie",
  "1f9de-200d-2640-fe0f:woman_genie 1f9de-200d-2642-fe0f:man_genie 1f9df:zombie",
  "1f9df-200d-2640-fe0f:woman_zombie 1f9df-200d-2642-fe0f:man_zombie 1f9e0:brain",
  "1f9e1:orange_heart 1f9e2:billed_cap 1f9e3:scarf 1f9e4:gloves 1f9e5:coat 1f9e6:socks",
  "1f9e7:red_envelope 1f9e8:firecracker 1f9e9:jigsaw 1f9ea:test_tube 1f9eb:petri_dish 1f9ec:dna",
  "1f9ed:compass 1f9ee:abacus 1f9ef:fire_extinguisher 1f9f0:toolbox 1f9f1:brick 1f9f2:magnet",
  "1f9f3:luggage 1f9f4:lotion_bottle 1f9f5:thread 1f9f6:yarn 1f9f7:safety_pin 1f9f8:teddy_bear",
  "1f9f9:broom 1f9fa:basket 1f9fb:roll_of_paper 1f9fc:soap 1f9fd:sponge 1f9fe:receipt",
  "1f9ff:nazar_amulet 1fa70:ballet_shoes 1fa71:one-piece_swimsuit 1fa72:briefs 1fa73:shorts",
  "1fa78:drop_of_blood 1fa79:adhesive_bandage 1fa7a:stethoscope 1fa80:yo-yo 1fa81:kite",
  "1fa90:ringed_planet 1fa91:chair 1fa92:razor 1fa93:axe 1fa94:diya_lamp 1fa95:banjo"]

/-- All pictures that are neither flags nor come in shades of skin. -/
def others : List String :=
  symbols ++ nature ++ creatures ++ signs ++ faces ++ transport ++ supplement

end CodeBehind.Console.Emoji
